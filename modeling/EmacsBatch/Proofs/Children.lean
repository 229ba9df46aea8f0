import EmacsBatch.Launch

/-!
# What a child sees

A child that was started sees the environment that the start put together for it, however
many scripts stand between. A variable that is given to the child hides an inherited one of
the same name and leaves the others alone.
-/

namespace EmacsBatch

namespace Launch

/-- The program that is executed in the end sees the whole environment. -/
theorem environment_of_execute {world : World} {environment : Environment} {limit : Nat}
    {path : Bytes} {arguments : List Bytes} {child : Child}
    (h : execute world environment limit path arguments = .ok child) :
    child.environment = environment := by
  fun_induction execute world environment limit path arguments with
  | case1 limit path arguments cause hopen => cases h
  | case2 limit path arguments program hopen =>
    cases h
    rfl
  | case3 limit path arguments content hopen hscript => cases h
  | case4 path arguments content hopen script hscript =>
    cases hinterpreter : openImage world script.interpreter with
    | error cause => simp [hinterpreter, bind, Except.bind] at h
    | ok image => simp [hinterpreter, bind, Except.bind, throw] at h
  | case5 path arguments content hopen script limit hscript ih => exact ih h

/-- A child sees the variables that it is given over those that are inherited. -/
theorem environment_of_start {world : World} {executable : Bytes} {arguments : List Bytes}
    {assignments : List (Bytes × Bytes)} {child : Child}
    (h : start world executable arguments assignments = .ok child) :
    child.environment = world.environment.overlay assignments := by
  rw [start] at h
  split at h
  · cases h
  · exact environment_of_execute h

end Launch

namespace Environment

/-- The names of variables as a process gets them: the sign that ends a name can only be its
first byte. -/
def WellNamed (environment : Environment) : Prop :=
  ∀ entry ∈ environment.entries, assignmentSign ∉ entry.1.tail

/-- The name of a well-named variable begins with no other name and the sign. -/
theorem WellNamed.isPrefixOf_eq_false {environment : Environment} (h : environment.WellNamed)
    {name : Bytes} (hname : name ≠ []) {entry : Bytes × Bytes}
    (hentry : entry ∈ environment.entries) :
    (name ++ [assignmentSign]).isPrefixOf entry.1 = false := by
  rw [Bool.eq_false_iff]
  intro hprefix
  obtain ⟨rest, hrest⟩ := List.isPrefixOf_iff_prefix.1 hprefix
  obtain ⟨first, more, rfl⟩ := List.exists_cons_of_ne_nil hname
  refine h entry hentry ?_
  rw [← hrest]
  simp

/-- A child finds the value of a variable that was set over well-named ones. -/
theorem found?_set {environment : Environment} (h : environment.WellNamed) {name : Bytes}
    (hname : name ≠ []) (value : Bytes) :
    (environment.set name value).found? name = some value := by
  have apart : ∀ entry ∈ (environment.set name value).entries,
      (name ++ [assignmentSign]).isPrefixOf entry.1 = false := by
    intro entry hentry
    rcases List.mem_cons.1 hentry with rfl | hentry
    · -- The name itself is too short for the sign.
      rw [Bool.eq_false_iff]
      intro hprefix
      have := (List.isPrefixOf_iff_prefix.1 hprefix).length_le
      simp only [List.length_append, List.length_singleton] at this
      omega
    · exact h.isPrefixOf_eq_false hname (List.mem_filter.1 hentry).1
  rw [found?_eq_get? apart, get?_set_self]

end Environment

end EmacsBatch
