import EmacsBatch.Execution

/-!
# What stages leave in a trace

Looking for the configuration, the helper library and the interpreter goes to the log and
has no other effect. The children and calls in a trace, and what it writes to the standard
output, are therefore those of its last stage, however much was logged before.
-/

namespace EmacsBatch

/-- Whether an effect goes to the log only. -/
def Effect.isLog : Effect → Bool
  | .event _ | .logging _ => true
  | _ => false

/-- A trace that shows in the log only. -/
def Silent (trace : List Effect) : Prop := ∀ effect ∈ trace, effect.isLog = true

namespace Silent

/-- Nothing at all is silent. -/
theorem nil : Silent [] := fun effect h => by cases h

/-- One more effect on the log stays silent. -/
theorem cons {effect : Effect} {trace : List Effect} (h : effect.isLog = true)
    (rest : Silent trace) : Silent (effect :: trace) := List.forall_mem_cons.2 ⟨h, rest⟩

/-- Silent traces that follow each other are silent. -/
theorem append {first second : List Effect} (hfirst : Silent first) (hsecond : Silent second) :
    Silent (first ++ second) := List.forall_mem_append.2 ⟨hfirst, hsecond⟩

/-- No child runs in a silent trace. -/
theorem childrenOf_eq {trace : List Effect} (h : Silent trace) : childrenOf trace = [] := by
  rw [childrenOf, List.filterMap_eq_nil_iff]
  intro effect heffect
  have hlog := h effect heffect
  cases effect <;> first | rfl | cases hlog

/-- No runner is called in a silent trace. -/
theorem callsOf_eq {trace : List Effect} (h : Silent trace) : callsOf trace = [] := by
  rw [callsOf, List.filterMap_eq_nil_iff]
  intro effect heffect
  have hlog := h effect heffect
  cases effect <;> first | rfl | cases hlog

/-- Nothing is written to the standard output in a silent trace. -/
theorem stdoutOf_eq {trace : List Effect} (h : Silent trace) : stdoutOf trace = [] := by
  rw [stdoutOf, List.flatMap_eq_nil_iff]
  intro effect heffect
  have hlog := h effect heffect
  cases effect <;> first | rfl | cases hlog

end Silent

/-- The children of two traces follow each other. -/
@[simp]
theorem childrenOf_append (first second : List Effect) :
    childrenOf (first ++ second) = childrenOf first ++ childrenOf second :=
  List.filterMap_append

/-- The calls of two traces follow each other. -/
@[simp]
theorem callsOf_append (first second : List Effect) :
    callsOf (first ++ second) = callsOf first ++ callsOf second :=
  List.filterMap_append

/-- The standard outputs of two traces are written one after the other. -/
@[simp]
theorem stdoutOf_append (first second : List Effect) :
    stdoutOf (first ++ second) = stdoutOf first ++ stdoutOf second :=
  List.flatMap_append

/-- Looking for the helper library shows in the log only. -/
theorem LibraryLocator.silent_resolve (locator : LibraryLocator) (world : World) :
    Silent (locator.resolve world).trace := by
  have fallback (searched : List Bytes) :
      Silent (locator.resolveFallback world searched).trace := by
    rw [resolveFallback]
    split
    · exact .cons rfl .nil
    · exact .nil
  rw [resolve]
  split
  · exact fallback []
  · split
    · exact .cons rfl .nil
    · exact .cons rfl (fallback _)

/-- Looking for the interpreter shows in the log only. -/
theorem Runner.silent_locate (world : World) (invocation : Invocation) :
    Silent (locate world invocation).trace := by
  rw [locate]
  cases Lookup.locate world invocation.program with
  | ok path => exact .nil
  | error error => exact .cons rfl .nil

/-- The interpreter is found where the look-up finds it, and otherwise not at all. -/
theorem Runner.locate_value (world : World) (invocation : Invocation) :
    (locate world invocation).value =
      match Lookup.locate world invocation.program with
      | .ok path => .ok path
      | .error _ => .error (.interpreterNotFound (Utf8.lossy invocation.program)) := by
  rw [locate]
  cases Lookup.locate world invocation.program <;> rfl

/-- Resolving a context shows in the log only. -/
theorem Context.silent_resolve (config : Config) (locator : LibraryLocator) (world : World) :
    Silent (resolve config locator world).trace := by
  rw [resolve, Traced.trace_bind]
  refine .append (locator.silent_resolve world) ?_
  cases (locator.resolve world).value <;> exact .nil

end EmacsBatch
