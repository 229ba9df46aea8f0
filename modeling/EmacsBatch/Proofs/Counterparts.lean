import EmacsBatch.Proofs.Overlays
import EmacsBatch.Proofs.PathLists

/-!
# Variables and flags that say the same

Each setting has a variable and a flag. Where both are used for the same settings and say the
same of them, it makes no difference which of the two is put over a configuration. The flag for
the level can only ask for one of the levels, and the word for it in the variable may be in any
case.

The load path is the exception. A variable that holds colons only is a load path without
directories, which no flags can ask for; an empty variable and no flags both leave the load path
as it is.
-/

namespace EmacsBatch

/-- A look-up in which the variables of some settings hold texts, and those of the others are
unset. -/
def HoldsTexts (lookup : String → Option String) (chosen : Config.Field → Bool)
    (texts : Config.Field → String) : Prop :=
  ∀ field : Config.Field,
    lookup field.variable = if chosen field then some (texts field) else none

/-- The flags for some settings that say what texts for the variables of these settings say.
The only level that a flag asks for is `debug`. -/
def Settings.ofTexts (chosen : Config.Field → Bool) (texts : Config.Field → String) :
    Settings where
  library := if chosen .library then some (Utf8.encode (texts .library)) else none
  emacs := if chosen .emacs then some (texts .emacs) else none
  loadPath := if chosen .loadPath then (segments (texts .loadPath)).map Utf8.encode else []
  verbose := chosen .logLevel

namespace Config

variable {chosen : Field → Bool} {texts : Field → String} {lookup : String → Option String}

/-- A setting has the value of its variable if this is set and not empty. -/
theorem get_withVariables (config : Config) (holds : HoldsTexts lookup chosen texts)
    (field : Field) :
    (config.withVariables lookup).get field =
      if chosen field = true ∧ texts field ≠ "" then field.ofText (texts field)
      else config.get field := by
  rw [withVariables, get_overlay, Overlay.get?_ofVariables, holds field]
  by_cases hchosen : chosen field = true
  · by_cases htext : texts field = ""
    · simp [given?, Option.filter, hchosen, htext]
    · simp [given?, Option.filter, hchosen, htext]
  · simp [given?, hchosen]

/-- The flags replace the load path if there are directories. -/
theorem loadPath_applyTo_ofTexts (config : Config) (chosen : Field → Bool)
    (texts : Field → String) :
    ((Settings.ofTexts chosen texts).applyTo config).loadPath =
      if chosen .loadPath = true ∧ segments (texts .loadPath) ≠ [] then
        (segments (texts .loadPath)).map Utf8.encode
      else config.loadPath := by
  by_cases hchosen : chosen .loadPath = true
  · by_cases hnone : segments (texts .loadPath) = []
    · simp [Settings.applyTo, Settings.overlay, Settings.ofTexts, overlay, hchosen, hnone]
    · simp [Settings.applyTo, Settings.overlay, Settings.ofTexts, overlay, hchosen, hnone]
  · simp [Settings.applyTo, Settings.overlay, Settings.ofTexts, overlay, hchosen]

/-- The variable for the load path replaces it if it is set and not empty. -/
theorem loadPath_withVariables (config : Config) (holds : HoldsTexts lookup chosen texts) :
    (config.withVariables lookup).loadPath =
      if chosen .loadPath = true ∧ texts .loadPath ≠ "" then
        (segments (texts .loadPath)).map Utf8.encode
      else config.loadPath := by
  rw [← listedPaths_encode]
  exact config.get_withVariables holds .loadPath

/-- Apart from the load path, variables and flags that say the same have the same effect. -/
theorem get_withVariables_eq (config : Config) (holds : HoldsTexts lookup chosen texts)
    (hlibrary : texts .library ≠ "") (hemacs : texts .emacs ≠ "")
    (hlevel : (texts .logLevel).toLower = "debug") {field : Field} (hfield : field ≠ .loadPath) :
    (config.withVariables lookup).get field =
      ((Settings.ofTexts chosen texts).applyTo config).get field := by
  rw [get_withVariables config holds, Settings.applyTo, get_overlay]
  cases field with
  | emacs =>
    cases h : chosen .emacs <;>
      simp [Settings.overlay, Settings.ofTexts, Overlay.get?, Field.ofText, h, hemacs]
  | library =>
    cases h : chosen .library <;>
      simp [Settings.overlay, Settings.ofTexts, Overlay.get?, Field.ofText, h, hlibrary]
  | loadPath => exact absurd rfl hfield
  | logLevel =>
    have hword : Text.lowercase (texts .logLevel) = Log.Level.debug.name :=
      Text.lowercase_of_toLower_eq hlevel (by simp [Log.Level.name])
    have hne : texts .logLevel ≠ "" := by
      intro h
      rw [h] at hlevel
      exact absurd hlevel (by decide +kernel)
    cases h : chosen .logLevel <;>
      simp [Settings.overlay, Settings.ofTexts, Overlay.get?, Field.ofText, h, hne, hword]

/-- For any choice of settings, variables that hold texts for them and flags that say the same
make the same of a configuration, provided that the texts for the library and the interpreter
are not empty and the one for the level spells `debug` in any case. A text without directories
is the one exception: if it is not empty, the variable clears the load path, which flags cannot
do. An empty text leaves the load path as it is, and directories that are joined by colons reach
it as they are. -/
theorem withVariables_eq_applyTo (config : Config) {chosen : Field → Bool}
    {texts : Field → String} {lookup : String → Option String}
    (holds : HoldsTexts lookup chosen texts)
    (hlibrary : texts .library ≠ "") (hemacs : texts .emacs ≠ "")
    (hlevel : (texts .logLevel).toLower = "debug") :
    (segments (texts .loadPath) ≠ [] ∨ texts .loadPath = "" ∨ chosen .loadPath = false →
      config.withVariables lookup = (Settings.ofTexts chosen texts).applyTo config) ∧
    (segments (texts .loadPath) = [] → texts .loadPath ≠ "" → chosen .loadPath = true →
      config.withVariables lookup =
        { (Settings.ofTexts chosen texts).applyTo config with loadPath := [] }) ∧
    (texts .loadPath = "" → (config.withVariables lookup).loadPath = config.loadPath) ∧
    (∀ directories : List String, directories ≠ [] →
      (∀ directory ∈ directories, directory ≠ "" ∧ ':' ∉ directory.toList) →
      texts .loadPath = ":".intercalate directories → chosen .loadPath = true →
        (config.withVariables lookup).loadPath = directories.map Utf8.encode) := by
  have hvariables := config.loadPath_withVariables holds
  have hflags := config.loadPath_applyTo_ofTexts chosen texts
  have others {field : Field} (hfield : field ≠ .loadPath) :=
    config.get_withVariables_eq holds hlibrary hemacs hlevel hfield
  have nonempty (h : segments (texts .loadPath) ≠ []) : texts .loadPath ≠ "" := by
    intro hempty
    exact h (by rw [hempty, segments_empty])
  refine ⟨?_, ?_, ?_, ?_⟩
  · intro h
    apply eq_of_get_eq
    intro field
    by_cases hfield : field = .loadPath
    · subst hfield
      have hsame : (config.withVariables lookup).loadPath =
          ((Settings.ofTexts chosen texts).applyTo config).loadPath := by
        rw [hvariables, hflags]
        rcases h with hsome | hempty | hnot
        · simp [hsome, nonempty hsome]
        · simp [hempty]
        · simp [hnot]
      exact hsame
    · exact others hfield
  · intro hnone hne hchosen
    apply eq_of_get_eq
    intro field
    by_cases hfield : field = .loadPath
    · subst hfield
      have hcleared : (config.withVariables lookup).loadPath = [] := by
        rw [hvariables, if_pos ⟨hchosen, hne⟩, hnone, List.map_nil]
      exact hcleared
    · rw [others hfield]
      exact (@get_set_of_ne _ .loadPath field [] hfield).symm
  · intro hempty
    rw [hvariables, if_neg fun h => h.2 hempty]
  · intro directories hsome hplain htext hchosen
    have hsegments : segments (texts .loadPath) = directories := by
      rw [htext, segments_intercalate hsome hplain]
    rw [hvariables, if_pos ⟨hchosen, nonempty (by rwa [hsegments])⟩, hsegments]

/-- Texts for all settings, with needless separators in the load path and capitals in the word
for the level. -/
def someTexts : Field → String
  | .emacs => "emacs-30"
  | .library => "/lib.el"
  | .loadPath => ":lisp::vendor:"
  | .logLevel => "Debug"

/-- The environment in which the variables of all settings hold these texts. -/
def someVariables (name : String) : Option String :=
  (Field.all.find? (·.variable = name)).map someTexts

/-- All variables together are worth all flags together. -/
theorem withVariables_eq_applyTo_of_someTexts :
    HoldsTexts someVariables (fun _ => true) someTexts ∧
    someTexts .library ≠ "" ∧ someTexts .emacs ≠ "" ∧ (someTexts .logLevel).toLower = "debug" ∧
    segments (someTexts .loadPath) = ["lisp", "vendor"] ∧
    default.withVariables someVariables =
      (Settings.ofTexts (fun _ => true) someTexts).applyTo default := by
  have holds : HoldsTexts someVariables (fun _ => true) someTexts := by
    intro field
    cases field <;> rfl
  have hlevel : (someTexts .logLevel).toLower = "debug" := by decide +kernel
  have hsegments : segments (someTexts .loadPath) = ["lisp", "vendor"] := by decide +kernel
  obtain ⟨hsame, -⟩ := withVariables_eq_applyTo default holds (by decide) (by decide) hlevel
  exact ⟨holds, by decide, by decide, hlevel, hsegments, hsame (.inl (by simp [hsegments]))⟩

end Config

end EmacsBatch
