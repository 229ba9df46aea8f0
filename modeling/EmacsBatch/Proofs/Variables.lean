import EmacsBatch.Proofs.Building
import EmacsBatch.Proofs.Children
import EmacsBatch.Proofs.Endings

/-!
# The variables of a call

An invocation keeps its variables as a row of pairs, in which a name may occur more than once.
To make the call, one setting after another is wrapped around the command; they are applied from
the outside in, and each replaces what was set before it. The innermost setting is applied last,
and this is the first pair: of two pairs with one name the first counts, not the last. Variables
that no pair names are inherited.
-/

namespace EmacsBatch

/-- A command with settings of variables wrapped around it. -/
inductive Wrapped where
  | command
  | setting (name value : Bytes) (inner : Wrapped)
  deriving DecidableEq

namespace Wrapped

/-- Wrap settings around a command, one after the other. -/
def wrap (wrapped : Wrapped) (pairs : List (Bytes × Bytes)) : Wrapped :=
  pairs.foldl (fun inner pair => .setting pair.1 pair.2 inner) wrapped

/-- The environment in which the command is started, given the one that it would inherit without
the settings. -/
def environment : Wrapped → Environment → Environment
  | command, inherited => inherited
  | setting name value inner, inherited => inner.environment (inherited.set name value)

/-- Settings that are wrapped around a command lie below those that it has. -/
theorem environment_wrap (wrapped : Wrapped) (pairs : List (Bytes × Bytes))
    (inherited : Environment) :
    (wrapped.wrap pairs).environment inherited =
      wrapped.environment (inherited.overlay pairs) := by
  induction pairs generalizing wrapped with
  | nil => rfl
  | cons pair pairs ih => exact ih (.setting pair.1 pair.2 wrapped)

end Wrapped

/-- The value of the first pair of a name. -/
def firstValue? (pairs : List (Bytes × Bytes)) (name : Bytes) : Option Bytes :=
  (pairs.find? (·.1 = name)).map (·.2)

/-- The value of the last pair of a name. -/
def lastValue? (pairs : List (Bytes × Bytes)) (name : Bytes) : Option Bytes :=
  firstValue? pairs.reverse name

/-- Names that occur have a first value, and the others have none. -/
theorem firstValue?_eq_none_iff {pairs : List (Bytes × Bytes)} {name : Bytes} :
    firstValue? pairs name = none ↔ name ∉ pairs.map (·.1) := by
  rw [firstValue?, Option.map_eq_none_iff, List.find?_eq_none]
  constructor
  · intro h hname
    obtain ⟨pair, hpair, hsame⟩ := List.mem_map.1 hname
    exact h pair hpair (decide_eq_true hsame)
  · intro h pair hpair hsame
    exact h (List.mem_map.2 ⟨pair, hpair, of_decide_eq_true hsame⟩)

/-- Names that occur have a last value, and the others have none. -/
theorem lastValue?_eq_none_iff {pairs : List (Bytes × Bytes)} {name : Bytes} :
    lastValue? pairs name = none ↔ name ∉ pairs.map (·.1) := by
  rw [lastValue?, firstValue?_eq_none_iff, List.map_reverse, List.mem_reverse]

namespace Environment

/-- Of the pairs that are laid over an environment the first of a name counts. -/
theorem get?_overlay (environment : Environment) (pairs : List (Bytes × Bytes)) (name : Bytes) :
    (environment.overlay pairs).get? name =
      (firstValue? pairs name).or (environment.get? name) := by
  induction pairs with
  | nil => rfl
  | cons pair pairs ih =>
    change ((environment.overlay pairs).set pair.1 pair.2).get? name = _
    by_cases h : pair.1 = name
    · rw [← h, get?_set_self]
      simp [firstValue?]
    · rw [get?_set_of_ne _ _ (Ne.symm h), ih]
      simp [firstValue?, h]

/-- Setting a well-named variable keeps an environment well-named. -/
theorem WellNamed.set {environment : Environment} (h : environment.WellNamed) {name : Bytes}
    (hname : assignmentSign ∉ name.tail) (value : Bytes) : (environment.set name value).WellNamed := by
  intro entry hentry
  rcases List.mem_cons.1 hentry with rfl | hentry
  · exact hname
  · exact h entry (List.mem_filter.1 hentry).1

/-- Laying well-named pairs over an environment keeps it well-named. -/
theorem WellNamed.overlay {environment : Environment} (h : environment.WellNamed)
    {pairs : List (Bytes × Bytes)} (hpairs : ∀ pair ∈ pairs, assignmentSign ∉ pair.1.tail) :
    (environment.overlay pairs).WellNamed := by
  induction pairs with
  | nil => exact h
  | cons pair pairs ih =>
    have hrest := ih fun other hother => hpairs other (List.mem_cons_of_mem _ hother)
    exact hrest.set (hpairs pair List.mem_cons_self) pair.2

/-- In a well-named environment a child finds the values that the variables have. -/
theorem WellNamed.found?_eq_get? {environment : Environment} (h : environment.WellNamed)
    {name : Bytes} (hname : name ≠ []) : environment.found? name = environment.get? name :=
  Environment.found?_eq_get? fun _ hentry => h.isPrefixOf_eq_false hname hentry

end Environment

/-- When the program of an invocation is found and started, it is the one child of the call. The
child's environment is that of the settings wrapped around the call: every name that occurs in
the pairs has the value of its first pair, and every other variable is inherited. So names have
the values of their last pairs exactly if first and last values agree. A child finds these values
unless names hold the sign that ends a name. -/
theorem Runner.child_keeps_first_values {world : World} {invocation : Invocation}
    {program path : Bytes} {row : List Invocation.Step} {child : Child}
    (built : invocation = (Invocation.batch program).steps row)
    (located : Lookup.locate world invocation.program = .ok path)
    (started : Launch.start world path invocation.arguments invocation.assignments = .ok child) :
    childrenOf (Runner.process.run world invocation).trace = [child] ∧
    invocation.assignments = row.flatMap Invocation.Step.assignments ∧
    child.environment =
      (Wrapped.command.wrap invocation.assignments).environment world.environment ∧
    (∀ name, child.environment.get? name =
      (firstValue? invocation.assignments name).or (world.environment.get? name)) ∧
    ((∀ name ∈ invocation.assignments.map (·.1),
        child.environment.get? name = lastValue? invocation.assignments name) ↔
      ∀ name, firstValue? invocation.assignments name =
        lastValue? invocation.assignments name) ∧
    (world.environment.WellNamed →
      (∀ pair ∈ invocation.assignments, Environment.assignmentSign ∉ pair.1.tail) →
      ∀ name ≠ [], child.environment.found? name = child.environment.get? name) := by
  have henvironment := Launch.environment_of_start started
  have hvalue (name : Bytes) : child.environment.get? name =
      (firstValue? invocation.assignments name).or (world.environment.get? name) := by
    rw [henvironment, Environment.get?_overlay]
  refine ⟨childrenOf_run_of_started located started, ?_, ?_, hvalue, ?_, ?_⟩
  · rw [built, Invocation.assignments_steps]
    rfl
  · rw [Wrapped.environment_wrap]
    exact henvironment
  · constructor
    · intro hlast name
      by_cases hname : name ∈ invocation.assignments.map (·.1)
      · obtain ⟨value, hfirst⟩ :=
          Option.ne_none_iff_exists'.1 fun hnone => firstValue?_eq_none_iff.1 hnone hname
        rw [← hlast name hname, hvalue, hfirst, Option.some_or]
      · rw [firstValue?_eq_none_iff.2 hname, lastValue?_eq_none_iff.2 hname]
    · intro hsame name hname
      obtain ⟨value, hfirst⟩ :=
        Option.ne_none_iff_exists'.1 fun hnone => firstValue?_eq_none_iff.1 hnone hname
      rw [hvalue, ← hsame, hfirst, Option.some_or]
  · intro hinherited hpairs name hname
    have hnamed : child.environment.WellNamed := by
      rw [henvironment]
      exact hinherited.overlay hpairs
    exact hnamed.found?_eq_get? hname

namespace Invocation

/-- A world with one program and no variables. -/
def smallWorld : World where
  tree := ⟨[([Utf8.encode "emacs"], .program {})]⟩
  environment := ⟨[]⟩
  directory := ⟨[], 0⟩

/-- Steps that set one variable twice and another one in between. -/
def settingTwice : List Step :=
  [.setVariable (Utf8.encode "A") (Utf8.encode "first"), .files [Utf8.encode "a.el"],
    .setVariable (Utf8.encode "B") (Utf8.encode "only"),
    .setVariable (Utf8.encode "A") (Utf8.encode "second")]

/-- The call of the program with these variables. -/
def callSettingTwice : Invocation := (batch (Utf8.encode "/emacs")).steps settingTwice

/-- The child of this call. -/
def childSettingTwice : Child where
  executable := Utf8.encode "/emacs"
  arguments := [Utf8.encode "--batch", Utf8.encode "a.el"]
  environment := ⟨[(Utf8.encode "A", Utf8.encode "first"), (Utf8.encode "B", Utf8.encode "only")]⟩
  program := {}

/-- The program of this call is found. -/
theorem locate_callSettingTwice :
    Lookup.locate smallWorld callSettingTwice.program = .ok (Utf8.encode "/emacs") :=
  toOption_eq_some_iff.1 (by decide)

/-- The program of this call is started. -/
theorem start_callSettingTwice :
    Launch.start smallWorld (Utf8.encode "/emacs") callSettingTwice.arguments
      callSettingTwice.assignments = .ok childSettingTwice :=
  toOption_eq_some_iff.1 (by decide)

end Invocation

/-- A variable that is set twice has the value that it was given first. -/
theorem Runner.child_keeps_first_values_of_settingTwice :
    Lookup.locate Invocation.smallWorld Invocation.callSettingTwice.program =
      .ok (Utf8.encode "/emacs") ∧
    Launch.start Invocation.smallWorld (Utf8.encode "/emacs") Invocation.callSettingTwice.arguments
      Invocation.callSettingTwice.assignments = .ok Invocation.childSettingTwice ∧
    Invocation.childSettingTwice.environment.get? (Utf8.encode "A") =
      some (Utf8.encode "first") ∧
    Invocation.childSettingTwice.environment.get? (Utf8.encode "B") = some (Utf8.encode "only") := by
  have built : Invocation.callSettingTwice =
      (Invocation.batch (Utf8.encode "/emacs")).steps Invocation.settingTwice := rfl
  have located := Invocation.locate_callSettingTwice
  have started := Invocation.start_callSettingTwice
  obtain ⟨-, -, -, hvalue, -, -⟩ := Runner.child_keeps_first_values built located started
  refine ⟨located, started, ?_, ?_⟩
  · rw [hvalue]
    decide
  · rw [hvalue]
    decide

/-- The value that a variable was given last does not reach the child. -/
theorem Runner.child_misses_last_value :
    childrenOf (Runner.process.run Invocation.smallWorld Invocation.callSettingTwice).trace =
      [Invocation.childSettingTwice] ∧
    lastValue? Invocation.callSettingTwice.assignments (Utf8.encode "A") =
      some (Utf8.encode "second") ∧
    Invocation.childSettingTwice.environment.get? (Utf8.encode "A") ≠
      some (Utf8.encode "second") ∧
    Invocation.childSettingTwice.environment.found? (Utf8.encode "A") =
      some (Utf8.encode "first") :=
  ⟨childrenOf_run_of_started Invocation.locate_callSettingTwice Invocation.start_callSettingTwice,
    by decide, by decide, by decide⟩

end EmacsBatch
