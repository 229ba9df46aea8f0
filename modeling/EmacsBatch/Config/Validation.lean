import EmacsBatch.Config.Basic
import EmacsBatch.Failure
import EmacsBatch.Text.Blank

/-!
# Valid configurations

A configuration is valid when it names an interpreter and one of the five log levels.
Nothing is asked of the paths.
-/

namespace EmacsBatch.Config

/-- What can be wrong with a configuration. -/
inductive Problem where
  | blankInterpreter
  | unknownLevel (word : String)
  deriving DecidableEq

/-- The text of a problem. -/
def Problem.message : Problem → String
  | .blankInterpreter => "emacs must name an interpreter program"
  | .unknownLevel word =>
    "log_level must be one of " ++ ", ".intercalate (Log.Level.all.map Log.Level.name)
      ++ ", got '" ++ word ++ "'"

/-- The first problem of a configuration. -/
def problem? (config : Config) : Option Problem :=
  if Text.isBlank config.emacs then some .blankInterpreter
  else if (Log.Level.ofName? config.logLevel).isNone then some (.unknownLevel config.logLevel)
  else none

/-- Whether a configuration can be used. -/
def Valid (config : Config) : Prop :=
  Text.isBlank config.emacs = false ∧ ∃ level, Log.Level.ofName? config.logLevel = some level

/-- The configuration itself if it is valid, and the failure that says why not otherwise. -/
def validated (config : Config) : Except Failure Config :=
  match config.problem? with
  | none => .ok config
  | some problem => .error (.invalidConfig problem.message)

/-- A configuration is valid exactly when nothing is wrong with it. -/
theorem problem?_eq_none_iff (config : Config) : config.problem? = none ↔ config.Valid := by
  unfold problem? Valid
  split
  · simp_all
  · split
    · simp_all
    · simp_all [← Option.isSome_iff_exists, Option.isSome_iff_ne_none]

/-- Checking gives back a valid configuration unchanged, and no other. -/
theorem validated_eq_ok_iff {config result : Config} :
    config.validated = .ok result ↔ config.Valid ∧ result = config := by
  rw [← problem?_eq_none_iff, validated]
  cases config.problem? <;> simp [eq_comm]

end EmacsBatch.Config
