import EmacsBatch.Proofs.Masking
import EmacsBatch.Proofs.PathLists

/-!
# Line feeds in messages

A message about a failure is put together from fixed texts, numbers and texts that come from
elsewhere: paths, names of interpreters, words and the messages of others. Neither the fixed
texts nor the numbers hold a line feed, so a message holds one exactly if a text that it quotes
does.
-/

namespace EmacsBatch

/-- The byte that ends a line. -/
def lineFeed : UInt8 := 0x0A

/-- Whether a text goes over more than one line. -/
def BreaksLine (text : String) : Prop := '\n' ∈ text.toList

instance : DecidablePred BreaksLine := fun text => inferInstanceAs (Decidable ('\n' ∈ text.toList))

/-- A text without the character among its characters stays on one line. -/
theorem not_breaksLine_ofList {cs : List Char} (h : '\n' ∉ cs) :
    ¬ BreaksLine (String.ofList cs) := by
  rwa [BreaksLine, String.toList_ofList]

/-- A text breaks a line exactly if the byte is among its bytes. -/
theorem lineFeed_mem_encode_iff {text : String} :
    lineFeed ∈ Utf8.encode text ↔ BreaksLine text := by
  have hchar (c : Char) : lineFeed ∈ Utf8.encodeChar c ↔ c = '\n' :=
    Utf8.mem_encodeChar_iff (a := '\n') (by decide) c
  rw [Utf8.encode, Utf8.encodeChars, List.mem_flatMap, BreaksLine]
  simp [hchar]

/-- What may follow a leading byte is at least 0x80. -/
theorem Utf8.low_of_lead? {byte : UInt8} {lead : Lead} (h : lead? byte = some lead) :
    0x80 ≤ lead.low := by
  rw [lead?] at h
  repeat' split at h
  all_goals cases h <;> decide

/-- The bytes of a malformed piece are all at least 0x80. -/
theorem Utf8.le_of_mem_malformed {bytes part : Bytes} (h : .malformed part ∈ pieces bytes) :
    ∀ byte ∈ part, 0x80 ≤ byte.toNat := by
  have high {byte : UInt8} (hbyte : ¬ byte.toNat < 0x80) : 0x80 ≤ byte.toNat := by omega
  have tail {byte : UInt8} (hbyte : isTail byte = true) : 0x80 ≤ byte.toNat := by
    simp only [isTail, Bool.and_eq_true, decide_eq_true_eq] at hbyte
    exact hbyte.1
  have second {a b : UInt8} {lead : Lead} (hl : lead? a = some lead)
      (hb : lead.low ≤ b.toNat ∧ b.toNat ≤ lead.high) : 0x80 ≤ b.toNat :=
    Nat.le_trans (low_of_lead? hl) hb.1
  fun_induction pieces bytes with
  | case1 => cases h
  | case2 a rest ha ih => exact ih (by simpa using h)
  | case3 a rest ha hl ih =>
    rcases List.mem_cons.1 h with hpart | h
    · cases hpart
      simpa using high ha
    · exact ih h
  | case4 a ha lead hl =>
    cases List.mem_singleton.1 h
    simpa using high ha
  | case5 a ha lead hl b rest hb h1 ih => exact ih (by simpa using h)
  | case6 a ha lead hl b hb h1 =>
    cases List.mem_singleton.1 h
    simpa using ⟨high ha, second hl hb⟩
  | case7 a ha lead hl b hb h1 c rest hc h2 ih => exact ih (by simpa using h)
  | case8 a ha lead hl b hb h1 c hc h2 =>
    cases List.mem_singleton.1 h
    simpa using ⟨high ha, second hl hb, tail hc⟩
  | case9 a ha lead hl b hb h1 c hc h2 d rest hd ih => exact ih (by simpa using h)
  | case10 a ha lead hl b hb h1 c hc h2 d rest hd ih =>
    rcases List.mem_cons.1 h with hpart | h
    · cases hpart
      simpa using ⟨high ha, second hl hb, tail hc⟩
    · exact ih h
  | case11 a ha lead hl b hb h1 c rest hc ih =>
    rcases List.mem_cons.1 h with hpart | h
    · cases hpart
      simpa using ⟨high ha, second hl hb⟩
    · exact ih h
  | case12 a ha lead hl b rest hb ih =>
    rcases List.mem_cons.1 h with hpart | h
    · cases hpart
      simpa using high ha
    · exact ih h

/-- Bytes shown as text break a line exactly if the byte is among them. -/
theorem breaksLine_lossy_iff {bytes : Bytes} :
    BreaksLine (Utf8.lossy bytes) ↔ lineFeed ∈ bytes := by
  have hpiece : ∀ piece ∈ Utf8.pieces bytes,
      (lineFeed ∈ piece.bytes ↔ piece.shown = '\n') := by
    intro piece hmem
    cases piece with
    | char c => exact Utf8.mem_encodeChar_iff (a := '\n') (by decide) c
    | malformed part =>
      have hnone : lineFeed ∉ part := by
        intro hpart
        exact absurd (Utf8.le_of_mem_malformed hmem _ hpart) (by decide)
      simp [Utf8.Piece.bytes, Utf8.Piece.shown, hnone]
  rw [BreaksLine, Utf8.lossy, String.toList_ofList, List.mem_map]
  have hbytes : lineFeed ∈ bytes ↔ ∃ piece ∈ Utf8.pieces bytes, lineFeed ∈ piece.bytes := by
    rw [← List.mem_flatMap, Utf8.flatMap_bytes_pieces]
  rw [hbytes]
  constructor
  · rintro ⟨piece, hmem, hshown⟩
    exact ⟨piece, hmem, (hpiece piece hmem).2 hshown⟩
  · rintro ⟨piece, hmem, hfeed⟩
    exact ⟨piece, hmem, (hpiece piece hmem).1 hfeed⟩

/-- Two texts after each other break a line exactly if one of them does. -/
@[simp]
theorem breaksLine_append {first second : String} :
    BreaksLine (first ++ second) ↔ BreaksLine first ∨ BreaksLine second := by
  rw [BreaksLine, String.toList_append, List.mem_append, BreaksLine, BreaksLine]

/-- Texts in a list break a line exactly if one of them does. -/
theorem breaksLine_intercalate {separator : String} (h : ¬ BreaksLine separator)
    {texts : List String} :
    BreaksLine (separator.intercalate texts) ↔ ∃ text ∈ texts, BreaksLine text := by
  induction texts with
  | nil => simp [BreaksLine]
  | cons text rest ih =>
    cases rest with
    | nil => simp [BreaksLine]
    | cons other rest =>
      rw [String.intercalate_cons_cons, breaksLine_append, breaksLine_append, ih]
      simp [h]

/-- A natural number is written on one line. -/
theorem not_breaksLine_nat (n : Nat) : ¬ BreaksLine n.repr := by
  intro h
  rw [BreaksLine, Nat.toList_repr] at h
  exact absurd (Nat.isDigit_of_mem_toDigits (by decide) (by decide) h) (by decide)

/-- A number is written on one line. -/
theorem not_breaksLine_int (n : Int) : ¬ BreaksLine n.repr := by
  cases n with
  | ofNat n => exact not_breaksLine_nat n
  | negSucc n =>
    have hsign : (Int.negSucc n).repr = "-" ++ (n + 1).repr := rfl
    rw [hsign, breaksLine_append, not_or]
    exact ⟨by decide, not_breaksLine_nat _⟩

set_option maxRecDepth 4000 in
/-- The descriptions of the error numbers are written on one line. -/
theorem SystemError.not_breaksLine_of_mem_descriptions :
    ∀ entry ∈ descriptions, ¬ BreaksLine entry.2 := by
  simp only [descriptions, List.forall_mem_cons]
  repeat' apply And.intro
  all_goals first
    | exact not_breaksLine_ofList (by decide)
    | exact fun entry h => (List.not_mem_nil h).elim

/-- The message of an error of the operating system breaks a line only if the message was given
as a text. -/
theorem SystemError.breaksLine_message_iff {cause : SystemError} :
    BreaksLine cause.message ↔ ∃ message, cause = .other message ∧ BreaksLine message := by
  cases cause with
  | number n =>
    have hdescription : ¬ BreaksLine (description n) := by
      rw [description]
      split
      · rename_i entry hfind
        exact not_breaksLine_of_mem_descriptions entry (List.mem_of_find?_eq_some hfind)
      · rw [breaksLine_append, not_or, Int.toString_eq_repr]
        exact ⟨not_breaksLine_ofList (by decide), not_breaksLine_int n⟩
    have hopen : ¬ BreaksLine " (os error " := not_breaksLine_ofList (by decide)
    have hclose : ¬ BreaksLine ")" := not_breaksLine_ofList (by decide)
    simp [message, hdescription, hopen, hclose, not_breaksLine_int]
  | nulInPath | nulInData | notText => simp [message, BreaksLine]
  | other text => simp [message]

/-- The texts that the message of a failure quotes. -/
def Failure.quoted : Failure → List String
  | .io cause => [cause.message]
  | .libraryNotFound searched => searched.map Utf8.lossy
  | .invalidConfig message => [message]
  | .interpreterNotFound program => [program]
  | .launch program cause => [program, cause.message]
  | .exited program _ | .terminated program _ => [program]

/-- The message of a failure breaks a line exactly if a text that it quotes does. -/
theorem Failure.breaksLine_message_iff {failure : Failure} :
    BreaksLine failure.message ↔ ∃ text ∈ failure.quoted, BreaksLine text := by
  cases failure with
  | io cause =>
    have hopen : ¬ BreaksLine "IO error: " := not_breaksLine_ofList (by decide)
    change BreaksLine ("IO error: " ++ cause.message) ↔ _
    simp [quoted, hopen]
  | libraryNotFound searched =>
    have hopen : ¬ BreaksLine
        "PRE_COMMIT_ELISP_LIB is not set or points to a non-existent file (searched: " :=
      not_breaksLine_ofList (by decide)
    have hcomma : ¬ BreaksLine ", " := not_breaksLine_ofList (by decide)
    have hclose : ¬ BreaksLine ")" := not_breaksLine_ofList (by decide)
    change BreaksLine
      ("PRE_COMMIT_ELISP_LIB is not set or points to a non-existent file (searched: "
        ++ ", ".intercalate (searched.map Utf8.lossy) ++ ")") ↔ _
    simp only [breaksLine_append, hopen, hclose, false_or, or_false]
    exact breaksLine_intercalate hcomma
  | invalidConfig text =>
    have hopen : ¬ BreaksLine "Invalid configuration: " := not_breaksLine_ofList (by decide)
    change BreaksLine ("Invalid configuration: " ++ text) ↔ _
    simp [quoted, hopen]
  | interpreterNotFound program =>
    have hopen : ¬ BreaksLine "Interpreter '" := not_breaksLine_ofList (by decide)
    have hclose : ¬ BreaksLine "' not found on PATH" := not_breaksLine_ofList (by decide)
    change BreaksLine ("Interpreter '" ++ program ++ "' not found on PATH") ↔ _
    simp [quoted, hopen, hclose]
  | launch program cause =>
    have hopen : ¬ BreaksLine "Failed to launch '" := not_breaksLine_ofList (by decide)
    have hclose : ¬ BreaksLine "': " := not_breaksLine_ofList (by decide)
    change BreaksLine ("Failed to launch '" ++ program ++ "': " ++ cause.message) ↔ _
    simp [quoted, hopen, hclose]
  | exited program code =>
    have hopen : ¬ BreaksLine "Command '" := not_breaksLine_ofList (by decide)
    have hclose : ¬ BreaksLine "' returned non-zero exit status " :=
      not_breaksLine_ofList (by decide)
    change BreaksLine ("Command '" ++ program ++ "' returned non-zero exit status "
      ++ toString code) ↔ _
    simp [quoted, hopen, hclose, not_breaksLine_int]
  | terminated program signal =>
    have hopen : ¬ BreaksLine "Command '" := not_breaksLine_ofList (by decide)
    have hclose : ¬ BreaksLine "' died with signal " := not_breaksLine_ofList (by decide)
    change BreaksLine ("Command '" ++ program ++ "' died with signal " ++ toString signal) ↔ _
    simp [quoted, hopen, hclose, not_breaksLine_int]

/-- An excerpt of a file goes over several lines, whatever it shows. -/
theorem Toml.breaksLine_excerpt (source : String) (span : Span) (message : String) :
    BreaksLine (excerpt source span message) := by
  dsimp only [excerpt]
  rw [breaksLine_append]
  exact .inr (by decide)

/-- The message about an unknown level breaks a line exactly if the word for the level does. -/
theorem Config.Problem.breaksLine_message_iff {problem : Problem} :
    BreaksLine problem.message ↔ ∃ word, problem = .unknownLevel word ∧ BreaksLine word := by
  cases problem with
  | blankInterpreter =>
    have hfixed : ¬ BreaksLine blankInterpreter.message := not_breaksLine_ofList (by decide)
    simp [hfixed]
  | unknownLevel word =>
    have hfixed : ¬ BreaksLine ("log_level must be one of " ++
        ", ".intercalate (Log.Level.all.map Log.Level.name) ++ ", got '") := by decide +kernel
    have hclose : ¬ BreaksLine "'" := not_breaksLine_ofList (by decide)
    rw [message_unknownLevel, breaksLine_append, breaksLine_append]
    simp [hfixed, hclose]

end EmacsBatch
