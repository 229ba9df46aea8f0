/-!
# Computations that may fail

A computation in steps is taken apart into its steps, from its success as well as from its
failure.
-/

namespace EmacsBatch

variable {ε α β : Type}

/-- A step that succeeded hands its value on. -/
theorem ok_bind (a : α) (next : α → Except ε β) : (Except.ok a >>= next) = next a := rfl

/-- A step that failed decides for the rest. -/
theorem error_bind (e : ε) (next : α → Except ε β) :
    ((Except.error e : Except ε α) >>= next) = .error e := rfl

/-- A computation in steps succeeds exactly when each step does. -/
theorem bind_eq_ok_iff {first : Except ε α} {next : α → Except ε β} {value : β} :
    first >>= next = .ok value ↔ ∃ a, first = .ok a ∧ next a = .ok value := by
  cases first with
  | error e => simp [bind, Except.bind]
  | ok a => simp [bind, Except.bind]

/-- A computation in steps fails exactly when its first step does, or a later one after it. -/
theorem bind_eq_error_iff {first : Except ε α} {next : α → Except ε β} {e : ε} :
    first >>= next = .error e ↔
      first = .error e ∨ ∃ a, first = .ok a ∧ next a = .error e := by
  cases first with
  | error e' => simp [bind, Except.bind]
  | ok a => simp [bind, Except.bind]

/-- A value that is changed afterwards is there exactly when it was there before. -/
theorem map_eq_ok_iff {first : Except ε α} {change : α → β} {value : β} :
    first.map change = .ok value ↔ ∃ a, first = .ok a ∧ change a = value := by
  cases first with
  | error e => simp [Except.map]
  | ok a => simp [Except.map]

/-- A computation whose error is changed succeeds exactly when it did so before. -/
theorem mapError_eq_ok_iff {ε' : Type} {first : Except ε α} {change : ε → ε'} {value : α} :
    first.mapError change = .ok value ↔ first = .ok value := by
  cases first with
  | error e => exact ⟨nofun, nofun⟩
  | ok a =>
    constructor
    · rintro ⟨⟩
      rfl
    · rintro ⟨⟩
      rfl

/-- A computation that is refused on a condition succeeds exactly when the condition does not
hold and the rest succeeds. -/
theorem ite_error_eq_ok_iff {c : Prop} [Decidable c] {e : ε} {rest : Except ε α} {value : α} :
    (if c then .error e else rest) = .ok value ↔ ¬ c ∧ rest = .ok value := by
  by_cases h : c <;> simp [h]

/-- A value is there exactly when the computation succeeded with it. -/
theorem toOption_eq_some_iff {result : Except ε α} {a : α} :
    result.toOption = some a ↔ result = .ok a := by
  cases result with
  | error e => exact ⟨nofun, nofun⟩
  | ok b => simp [Except.toOption]

end EmacsBatch
