import EmacsBatch.Bytes.Utf8.RoundTrip
import EmacsBatch.Config.Environment
import EmacsBatch.Config.Validation

/-!
# Words for log levels

The variable for the log level may spell the word of a level in any case. Its text is made
lowercase by the full mapping of Unicode, in which some characters beyond ASCII have an ASCII
form: U+212A becomes the letter k, and U+0130 becomes two characters, the first of them the
letter i. Neither spells part of a level: no word for a level has a k in it, and the second of
the two characters is not ASCII. So the texts that are accepted are those that spell a word in
ASCII letters.
-/

namespace EmacsBatch

namespace Text

namespace Lowercase

/-- The one run of the table that leads to ASCII: U+212A becomes the letter k. -/
def kelvin : Run := ⟨0x212A, 0x212A, 1, 0x6B⟩

set_option maxRecDepth 2000 in
/-- All other runs lead to characters beyond ASCII. -/
theorem runs_beyond_ascii : ∀ run ∈ runs, run = kelvin ∨
    0x80 ≤ run.target ∧ (run.target + (run.last - run.first) < 0xD800 ∨
      0xDFFF < run.target ∧ run.target + (run.last - run.first) < 0x110000) := by
  decide

/-- A run of the table leads to the letter k or beyond ASCII. -/
theorem Run.target?_beyond_ascii {run : Run} (h : run ∈ runs) {n target : Nat}
    (htarget : run.target? n = some target) :
    target = 0x6B ∨
      0x80 ≤ target ∧ (target < 0xD800 ∨ 0xDFFF < target ∧ target < 0x110000) := by
  rw [Run.target?, Option.ite_none_right_eq_some] at htarget
  obtain ⟨⟨hfirst, hlast, -⟩, heq⟩ := htarget
  have hsum := Option.some.inj heq
  rcases runs_beyond_ascii run h with rfl | ⟨hbeyond, hvalid⟩
  · simp only [kelvin] at hfirst hlast hsum
    omega
  · exact .inr ⟨by omega, by omega⟩

/-- The one-character lowercase form of a character beyond ASCII is the letter k or beyond
ASCII. -/
theorem char_beyond_ascii {c : Char} (h : 0x80 ≤ c.toNat) :
    char c = 'k' ∨ 0x80 ≤ (char c).toNat := by
  rw [char, if_neg (by omega)]
  cases hfound : runs.findSome? (·.target? c.toNat) with
  | none => exact .inr h
  | some target =>
    obtain ⟨run, hrun, htarget⟩ := List.exists_of_findSome?_eq_some hfound
    rcases Run.target?_beyond_ascii hrun htarget with rfl | ⟨hbeyond, hvalid⟩
    · exact .inl rfl
    · refine .inr ?_
      rwa [Utf8.toNat_ofNat hvalid]

/-- A character beyond ASCII leaves a trace in any surroundings: the letter k, or a character
beyond ASCII. -/
theorem charBetween_beyond_ascii {c : Char} (h : 0x80 ≤ c.toNat) (before after : List Char) :
    ∃ d ∈ charBetween before c after, d = 'k' ∨ 0x80 ≤ d.toNat := by
  rw [charBetween]
  split
  · exact ⟨Char.ofNat 0x307, List.mem_cons_of_mem _ List.mem_cons_self, .inr (by decide)⟩
  · split
    · split
      · exact ⟨_, List.mem_singleton_self _, .inr (by decide)⟩
      · exact ⟨_, List.mem_singleton_self _, .inr (by decide)⟩
    · exact ⟨_, List.mem_singleton_self _, char_beyond_ascii h⟩

/-- So it does in the lowercase form of a row of characters. -/
theorem charsAfter_beyond_ascii {c : Char} (h : 0x80 ≤ c.toNat) {cs : List Char} (hc : c ∈ cs)
    (before : List Char) : ∃ d ∈ charsAfter before cs, d = 'k' ∨ 0x80 ≤ d.toNat := by
  induction cs generalizing before with
  | nil => cases hc
  | cons other rest ih =>
    rcases List.mem_cons.1 hc with rfl | hrest
    · obtain ⟨d, hd, htrace⟩ := charBetween_beyond_ascii h before rest
      exact ⟨d, List.mem_append_left _ hd, htrace⟩
    · obtain ⟨d, hd, htrace⟩ := ih hrest (other :: before)
      exact ⟨d, List.mem_append_right _ hd, htrace⟩

end Lowercase

/-- A text whose lowercase form is an ASCII word without the letter k is ASCII itself. -/
theorem ascii_of_lowercase {s : String}
    (plain : ∀ c ∈ (lowercase s).toList, c ≠ 'k' ∧ c.toNat < 0x80) :
    ∀ c ∈ s.toList, c.toNat < 0x80 := by
  intro c hc
  refine Nat.lt_of_not_le fun hbeyond => ?_
  obtain ⟨d, hd, htrace⟩ := Lowercase.charsAfter_beyond_ascii hbeyond hc []
  rw [lowercase, String.toList_ofList] at plain
  obtain ⟨hk, hascii⟩ := plain d hd
  rcases htrace with rfl | hd'
  · exact hk rfl
  · omega

/-- An ASCII word without the letter k is the lowercase form of those texts only that spell it
up to the case of ASCII letters. -/
theorem lowercase_eq_iff_toLower_eq {s word : String}
    (plain : ∀ c ∈ word.toList, c ≠ 'k' ∧ c.toNat < 0x80) :
    lowercase s = word ↔ s.toLower = word := by
  constructor
  · intro h
    rw [← h] at plain
    rw [← h, lowercase_of_ascii (ascii_of_lowercase plain)]
  · intro h
    exact lowercase_of_toLower_eq h fun c hc => (plain c hc).2

/-- The letter k is the lowercase form of a character that is no ASCII letter. -/
example : lowercase (String.singleton (Char.ofNat 0x212A)) = "k" := by decide +kernel

end Text

namespace Log.Level

/-- A word stands for a level exactly if it is the word of this level. -/
theorem ofName?_eq_some_iff {word : String} {level : Level} :
    ofName? word = some level ↔ word = level.name := by
  constructor
  · intro h
    rw [ofName?] at h
    simpa [eq_comm] using List.find?_some h
  · rintro rfl
    exact ofName?_name level

/-- No word of a level has the letter k in it or a character beyond ASCII. -/
theorem name_plain (level : Level) : ∀ c ∈ level.name.toList, c ≠ 'k' ∧ c.toNat < 0x80 := by
  have hall : level.name.toList.all (fun c => c ≠ 'k' ∧ c.toNat < 0x80) = true := by
    cases level <;> decide
  simpa using hall

/-- Whether a text spells the word of a level in letters of any case. -/
def SpelledBy (level : Level) (text : String) : Prop := text.toLower = level.name

instance (level : Level) (text : String) : Decidable (level.SpelledBy text) :=
  inferInstanceAs (Decidable (text.toLower = level.name))

/-- The texts that spell a level are those whose lowercase form is its word. -/
theorem spelledBy_iff {level : Level} {text : String} :
    level.SpelledBy text ↔ Text.lowercase text = level.name :=
  (Text.lowercase_eq_iff_toLower_eq level.name_plain).symm

/-- A text that spells a level has ASCII characters only. -/
theorem SpelledBy.ascii {level : Level} {text : String} (h : level.SpelledBy text) :
    ∀ c ∈ text.toList, c.toNat < 0x80 := by
  apply Text.ascii_of_lowercase
  rw [spelledBy_iff.1 h]
  exact level.name_plain

end Log.Level

namespace Config

/-- The level is that of the variable if this is set and not empty. -/
theorem logLevel_withVariables {config : Config} {lookup : String → Option String}
    {text : String} (given : lookup logVariable = some text) :
    (config.withVariables lookup).logLevel =
      if text = "" then config.logLevel else Text.lowercase text := by
  by_cases h : text = "" <;>
    simp [withVariables, overlay, Overlay.ofVariables, given?, Option.filter, given, h]

/-- The interpreter stays usable unless its variable is set to blanks. -/
theorem isBlank_emacs_withVariables {config : Config} {lookup : String → Option String}
    (usable : ∀ program, lookup emacsVariable = some program →
      program = "" ∨ Text.isBlank program = false)
    (h : Text.isBlank config.emacs = false) :
    Text.isBlank (config.withVariables lookup).emacs = false := by
  cases hlookup : lookup emacsVariable with
  | none => simpa [withVariables, overlay, Overlay.ofVariables, given?, hlookup] using h
  | some program =>
    by_cases hempty : program = ""
    · simpa [withVariables, overlay, Overlay.ofVariables, given?, Option.filter, hlookup, hempty]
        using h
    · simpa [withVariables, overlay, Overlay.ofVariables, given?, Option.filter, hlookup, hempty]
        using (usable program hlookup).resolve_left hempty

/-- A text for the level in the environment, over a valid configuration whose interpreter the
environment leaves usable. The configuration is valid afterwards exactly if the text is empty or
spells one of the levels in ASCII letters of any case; it then has the level that it had before,
or the one that is spelled, by its own word. Every other text makes it invalid, and among these
are all texts with a character beyond ASCII. -/
theorem valid_withVariables_iff_spelledBy {config : Config} (valid : config.Valid)
    {lookup : String → Option String} {text : String} (given : lookup logVariable = some text)
    (usable : ∀ program, lookup emacsVariable = some program →
      program = "" ∨ Text.isBlank program = false) :
    ((config.withVariables lookup).Valid ↔
      text = "" ∨ ∃ level : Log.Level, level.SpelledBy text) ∧
    (text = "" → (config.withVariables lookup).logLevel = config.logLevel) ∧
    (∀ level : Log.Level, level.SpelledBy text →
      (config.withVariables lookup).logLevel = level.name) ∧
    ((∃ c ∈ text.toList, 0x80 ≤ c.toNat) → ¬ (config.withVariables lookup).Valid) := by
  have hlevel := config.logLevel_withVariables given
  have nonempty {level : Log.Level} (h : level.SpelledBy text) : text ≠ "" := by
    rintro rfl
    cases level <;> exact absurd h (by decide +kernel)
  have hvalid : (config.withVariables lookup).Valid ↔
      text = "" ∨ ∃ level : Log.Level, level.SpelledBy text := by
    have hemacs := isBlank_emacs_withVariables usable valid.1
    rw [Valid, and_iff_right hemacs, hlevel]
    by_cases h : text = ""
    · simp only [h, if_true, true_or, iff_true]
      exact valid.2
    · simp only [h, if_false, false_or, Log.Level.ofName?_eq_some_iff, Log.Level.spelledBy_iff]
  refine ⟨hvalid, ?_, ?_, ?_⟩
  · intro h
    rw [hlevel, if_pos h]
  · intro level h
    rw [hlevel, if_neg (nonempty h), Log.Level.spelledBy_iff.1 h]
  · rintro ⟨c, hc, hbeyond⟩ h
    rcases hvalid.1 h with rfl | ⟨level, hspelled⟩
    · cases hc
    · exact absurd (hspelled.ascii c hc) (Nat.not_lt.2 hbeyond)

/-- An environment in which the variable spells a level in mixed case. -/
def mixedCase (name : String) : Option String :=
  if name = logVariable then some "TraCe" else none

/-- The level is then known by its word. -/
theorem valid_withVariables_of_mixedCase :
    default.Valid ∧ mixedCase logVariable = some "TraCe" ∧ mixedCase emacsVariable = none ∧
    (default.withVariables mixedCase).Valid ∧
    (default.withVariables mixedCase).logLevel = "trace" := by
  have valid : default.Valid := (problem?_eq_none_iff _).1 (by decide)
  have given : mixedCase logVariable = some "TraCe" := by decide
  have unset : mixedCase emacsVariable = none := by decide
  have spelled : Log.Level.trace.SpelledBy "TraCe" := by decide +kernel
  have usable : ∀ program, mixedCase emacsVariable = some program →
      program = "" ∨ Text.isBlank program = false := by
    rw [unset]
    exact nofun
  obtain ⟨hvalid, -, hlevel, -⟩ := valid_withVariables_iff_spelledBy valid given usable
  exact ⟨valid, given, unset, hvalid.2 (.inr ⟨.trace, spelled⟩), hlevel .trace spelled⟩

end Config

end EmacsBatch
