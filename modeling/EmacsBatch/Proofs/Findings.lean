import EmacsBatch.Proofs.Diagnosis
import EmacsBatch.Proofs.LineFeeds
import Mathlib.Data.List.DropRight

/-!
# What the doctor finds

A report of the doctor has either a helper library or a reason why there is none, never both and
never neither. It has a version only for an interpreter that was found and started, and then the
version is the first line of what this wrote to its standard output. Line ends at the end of the
output do not count, so an output without anything else has no first line, while a blank line
before other text is a first line that is empty. How the interpreter ended and what it wrote to
its standard error is of no importance.
-/

namespace EmacsBatch

/-- The byte that may come before the one that ends a line. -/
def carriageReturn : UInt8 := 0x0D

namespace Utf8

/-- Bytes of characters that are cut before an ASCII byte, or at their end, are the bytes of
characters. -/
theorem exists_encodeChars_of_append {cs : List Char} {before rest : Bytes}
    (h : encodeChars cs = before ++ rest) (ascii : ∀ byte ∈ rest.head?, byte.toNat < 0x80) :
    ∃ ds, before = encodeChars ds := by
  induction cs generalizing before with
  | nil => exact ⟨[], (List.append_eq_nil_iff.1 h.symm).1⟩
  | cons c cs ih =>
    have hcons : encodeChar c ++ encodeChars cs = before ++ rest := h
    rcases List.append_eq_append_iff.1 hcons with ⟨more, hbefore, hmore⟩ | ⟨cut, hchar, hrest⟩
    · obtain ⟨ds, rfl⟩ := ih hmore
      exact ⟨c :: ds, hbefore⟩
    · cases cut with
      | nil => exact ⟨[c], by simpa [encodeChars] using hchar.symm⟩
      | cons byte cut =>
        -- The byte after the cut belongs to the character, which is then this byte alone.
        have hbyte : byte.toNat < 0x80 := ascii byte (by rw [hrest]; rfl)
        have hmem : byte ∈ encodeChar c := by simp [hchar]
        have hc : c.toNat < 0x80 := by
          by_contra hhigh
          have := le_of_mem_encodeChar (Nat.le_of_not_lt hhigh) hmem
          omega
        have hone : before ++ byte :: cut = [c.toNat.toUInt8] := by
          rw [← hchar, encodeChar, if_pos hc]
        have hbefore : before = [] := by
          cases before with
          | nil => rfl
          | cons first before => simp at hone
        exact ⟨[], hbefore⟩

/-- A text that is cut before an ASCII byte, or at its end, is a text. -/
theorem isValid_of_append {before rest : Bytes} (h : isValid (before ++ rest) = true)
    (ascii : ∀ byte ∈ rest.head?, byte.toNat < 0x80) : isValid before = true := by
  obtain ⟨text, htext⟩ := (isValid_iff_exists_encode _).1 h
  obtain ⟨ds, hbefore⟩ := exists_encodeChars_of_append htext.symm ascii
  refine (isValid_iff_exists_encode _).2 ⟨String.ofList ds, ?_⟩
  rw [hbefore, encode, String.toList_ofList]

end Utf8

namespace Doctor

/-- A text is what is left of an output without all the line ends at its end. -/
structure Trimmed (output text : Bytes) : Prop where
  removed : ∃ ends, output = text ++ ends ∧ ∀ byte ∈ ends, byte = carriageReturn ∨ byte = lineFeed
  left : ∀ byte ∈ text.getLast?, byte ≠ carriageReturn ∧ byte ≠ lineFeed

/-- A line is the first one of a text: all of it if it has no line feed, and otherwise what comes
before its first line feed, without one carriage return right before that. -/
inductive FirstLine : Bytes → Bytes → Prop where
  | whole {line : Bytes} (plain : lineFeed ∉ line) : FirstLine line line
  | feed {line rest : Bytes} (plain : lineFeed ∉ line)
    (last : line.getLast? ≠ some carriageReturn) : FirstLine (line ++ lineFeed :: rest) line
  | returnFeed {line rest : Bytes} (plain : lineFeed ∉ line) :
    FirstLine (line ++ carriageReturn :: lineFeed :: rest) line

/-- The bytes of line ends. -/
theorem isLineEnd_iff {byte : UInt8} :
    isLineEnd byte = true ↔ byte = carriageReturn ∨ byte = lineFeed := by
  rw [isLineEnd, Bool.or_eq_true, decide_eq_true_iff, decide_eq_true_iff, or_comm]
  rfl

/-- Trimming drops matching bytes from the right. -/
theorem trimEnd_eq_rdropWhile (matching : UInt8 → Bool) (bytes : Bytes) :
    Bytes.trimEnd matching bytes = bytes.rdropWhile matching := rfl

/-- Trimming leaves the output without the line ends at its end. -/
theorem trimmed_iff {output text : Bytes} :
    Trimmed output text ↔ text = Bytes.trimEnd isLineEnd output := by
  rw [trimEnd_eq_rdropWhile]
  constructor
  · rintro ⟨⟨ends, rfl, hends⟩, left⟩
    have hself : text.rdropWhile isLineEnd = text := by
      refine List.rdropWhile_eq_self_iff.2 fun hne hlast => ?_
      obtain ⟨hreturn, hfeed⟩ := left _ (List.getLast?_eq_some_getLast hne)
      exact (isLineEnd_iff.1 hlast).elim hreturn hfeed
    have hreverse : ∀ byte ∈ ends.reverse, isLineEnd byte = true := by
      intro byte hbyte
      exact isLineEnd_iff.2 (hends byte (List.mem_reverse.1 hbyte))
    rw [List.rdropWhile, List.reverse_append, List.dropWhile_append_of_pos hreverse]
    exact hself.symm
  · rintro rfl
    refine ⟨⟨output.rtakeWhile isLineEnd, List.rdropWhile_append_rtakeWhile.symm, ?_⟩, ?_⟩
    · intro byte hbyte
      exact isLineEnd_iff.1 (List.mem_rtakeWhile_imp hbyte)
    · intro byte hbyte
      obtain ⟨hne, rfl⟩ := List.mem_getLast?_eq_getLast hbyte
      exact not_or.1 (mt isLineEnd_iff.2 (List.rdropWhile_last_not _ _ hne))

/-- Nothing is left of an output exactly if it holds line ends only. -/
theorem trimEnd_eq_nil_iff {output : Bytes} :
    Bytes.trimEnd isLineEnd output = [] ↔
      ∀ byte ∈ output, byte = carriageReturn ∨ byte = lineFeed := by
  rw [trimEnd_eq_rdropWhile, List.rdropWhile_eq_nil_iff]
  exact forall₂_congr fun byte hbyte => isLineEnd_iff

/-- Every text has a first line. -/
theorem exists_firstLine (text : Bytes) : ∃ line, FirstLine text line := by
  by_cases hfeed : lineFeed ∈ text
  · obtain ⟨line, rest, rfl, plain⟩ := List.eq_append_cons_of_mem hfeed
    by_cases hlast : line.getLast? = some carriageReturn
    · obtain ⟨front, rfl⟩ := List.getLast?_eq_some_iff.1 hlast
      refine ⟨front, ?_⟩
      rw [List.append_assoc]
      exact .returnFeed fun hmem => plain (List.mem_append_left _ hmem)
    · exact ⟨line, .feed plain hlast⟩
  · exact ⟨text, .whole hfeed⟩

/-- All bytes of a text without line feeds pass for bytes before one. -/
theorem ne_of_lineFeed_notMem {text : Bytes} (plain : lineFeed ∉ text) :
    ∀ byte ∈ text, decide (byte ≠ 0x0A) = true := by
  intro byte hbyte
  have hne : byte ≠ lineFeed := ne_of_mem_of_not_mem hbyte plain
  exact decide_eq_true hne

/-- The bytes before the first line feed. -/
theorem takeWhile_append_lineFeed {line : Bytes} (plain : lineFeed ∉ line) (rest : Bytes) :
    (line ++ lineFeed :: rest).takeWhile (· ≠ 0x0A) = line := by
  rw [List.takeWhile_append_of_pos (ne_of_lineFeed_notMem plain)]
  exact List.append_nil line

/-- The first line of what is left of an output is found if anything is left. -/
theorem firstLine?_of_trimmed {output text line : Bytes} (trimmed : Trimmed output text)
    (hne : text ≠ []) (first : FirstLine text line) : firstLine? output = some line := by
  obtain ⟨byte, rest, hcons⟩ := List.exists_cons_of_ne_nil hne
  have hmatch : firstLine? output =
      some (if (text.takeWhile (· ≠ 0x0A)).length < text.length ∧
          (text.takeWhile (· ≠ 0x0A)).getLast? = some 0x0D then
        (text.takeWhile (· ≠ 0x0A)).dropLast else text.takeWhile (· ≠ 0x0A)) := by
    rw [firstLine?, ← trimmed_iff.1 trimmed, hcons]
  rw [hmatch]
  cases first with
  | whole plain =>
    have hself : text.takeWhile (· ≠ 0x0A) = text :=
      List.takeWhile_eq_self_iff.2 (ne_of_lineFeed_notMem plain)
    rw [hself, if_neg fun h => Nat.lt_irrefl _ h.1]
  | feed plain last =>
    rw [takeWhile_append_lineFeed plain, if_neg fun h => last h.2]
  | @returnFeed _ rest plain =>
    have hreturn : lineFeed ∉ line ++ [carriageReturn] := by
      simp only [List.mem_append, List.mem_singleton, not_or]
      exact ⟨plain, by decide⟩
    have hshorter : (line ++ [carriageReturn]).length <
        (line ++ [carriageReturn] ++ lineFeed :: rest).length := by
      simp
    rw [List.append_cons line carriageReturn, takeWhile_append_lineFeed hreturn,
      if_pos ⟨hshorter, List.getLast?_concat⟩, List.dropLast_concat]

/-- A first line is found exactly if it is that of what is left of the output, and anything is
left. -/
theorem firstLine?_eq_some_iff {output line : Bytes} :
    firstLine? output = some line ↔
      ∃ text, Trimmed output text ∧ text ≠ [] ∧ FirstLine text line := by
  constructor
  · intro hfirst
    have hne : Bytes.trimEnd isLineEnd output ≠ [] := by
      intro hnil
      rw [firstLine?, hnil] at hfirst
      cases hfirst
    obtain ⟨other, hother⟩ := exists_firstLine (Bytes.trimEnd isLineEnd output)
    have htrimmed := trimmed_iff.2 (rfl : Bytes.trimEnd isLineEnd output = _)
    cases hfirst.symm.trans (firstLine?_of_trimmed htrimmed hne hother)
    exact ⟨_, htrimmed, hne, hother⟩
  · rintro ⟨text, trimmed, hne, first⟩
    exact firstLine?_of_trimmed trimmed hne first

/-- No first line is found exactly if the output holds line ends only. -/
theorem firstLine?_eq_none_iff {output : Bytes} :
    firstLine? output = none ↔ ∀ byte ∈ output, byte = carriageReturn ∨ byte = lineFeed := by
  rw [← trimEnd_eq_nil_iff, firstLine?]
  cases Bytes.trimEnd isLineEnd output with
  | nil => exact iff_of_true rfl rfl
  | cons byte rest => exact iff_of_false nofun nofun

/-- What follows the first line of a text begins with a line end. -/
theorem FirstLine.exists_rest {text line : Bytes} (h : FirstLine text line) :
    ∃ rest, text = line ++ rest ∧ ∀ byte ∈ rest.head?, byte = carriageReturn ∨ byte = lineFeed := by
  cases h with
  | whole plain => exact ⟨[], (List.append_nil _).symm, nofun⟩
  | feed plain last => exact ⟨_, rfl, fun byte hbyte => .inr (Option.some.inj hbyte).symm⟩
  | returnFeed plain => exact ⟨_, rfl, fun byte hbyte => .inl (Option.some.inj hbyte).symm⟩

/-- A first line holds no line feed. -/
theorem FirstLine.lineFeed_notMem {text line : Bytes} (h : FirstLine text line) :
    lineFeed ∉ line := by
  cases h <;> assumption

/-- What follows the first line in an output begins with a line end. -/
theorem Trimmed.exists_rest {output text line : Bytes} (h : Trimmed output text)
    (first : FirstLine text line) :
    ∃ rest, output = line ++ rest ∧
      ∀ byte ∈ rest.head?, byte = carriageReturn ∨ byte = lineFeed := by
  obtain ⟨⟨ends, houtput, hends⟩, -⟩ := h
  obtain ⟨rest, htext, hrest⟩ := first.exists_rest
  refine ⟨rest ++ ends, ?_, ?_⟩
  · rw [houtput, htext, List.append_assoc]
  · intro byte hbyte
    cases rest with
    | nil => exact hends byte (List.mem_of_mem_head? hbyte)
    | cons first rest => exact hrest byte hbyte

/-- A version is named exactly if the output is text and has a first line, which is then the
version. -/
theorem version?_eq_some_iff {output : Bytes} {version : String} :
    version? output = some version ↔
      Utf8.isValid output = true ∧
        ∃ text, Trimmed output text ∧ text ≠ [] ∧ FirstLine text (Utf8.encode version) := by
  rw [← firstLine?_eq_some_iff, version?]
  cases hvalid : Utf8.isValid output with
  | false => exact iff_of_false nofun fun h => Bool.false_ne_true h.1
  | true =>
    rw [if_pos rfl, Option.bind_eq_some_iff, and_iff_right rfl]
    constructor
    · rintro ⟨line, hfirst, hline⟩
      rwa [← Utf8.decode?_eq_some_iff.1 hline]
    · intro hfirst
      exact ⟨_, hfirst, Utf8.decode?_encode version⟩

/-- No version is named exactly if the output is no text or holds line ends only. -/
theorem version?_eq_none_iff {output : Bytes} :
    version? output = none ↔
      Utf8.isValid output = false ∨
        ∀ byte ∈ output, byte = carriageReturn ∨ byte = lineFeed := by
  rw [← firstLine?_eq_none_iff, version?]
  cases hvalid : Utf8.isValid output with
  | false => exact iff_of_true rfl (.inl rfl)
  | true =>
    rw [if_pos rfl]
    cases hfirst : firstLine? output with
    | none => exact iff_of_true rfl (.inr rfl)
    | some line =>
      -- The first line of a text is a text, so it has the characters of a version.
      obtain ⟨text, trimmed, -, first⟩ := firstLine?_eq_some_iff.1 hfirst
      obtain ⟨rest, houtput, hrest⟩ := trimmed.exists_rest first
      have ascii : ∀ byte ∈ rest.head?, byte.toNat < 0x80 := by
        intro byte hbyte
        rcases hrest byte hbyte with rfl | rfl <;> decide
      have hline : Utf8.isValid line = true := by
        rw [houtput] at hvalid
        exact Utf8.isValid_of_append hvalid ascii
      refine iff_of_false ?_ (by simp)
      rw [Option.bind_some]
      exact Option.isSome_iff_ne_none.1 hline

/-- A version is a beginning of the output that stays on one line. -/
theorem prefix_of_version? {output : Bytes} {version : String}
    (h : version? output = some version) :
    Utf8.encode version <+: output ∧ ¬ BreaksLine version := by
  obtain ⟨-, text, trimmed, -, first⟩ := version?_eq_some_iff.1 h
  obtain ⟨rest, houtput, -⟩ := trimmed.exists_rest first
  refine ⟨⟨rest, houtput.symm⟩, ?_⟩
  rw [← lineFeed_mem_encode_iff]
  exact first.lineFeed_notMem

/-- The child that answers when the interpreter of a configuration, as it is found, is asked for
its version. -/
inductive Answers (config : Config) (world : World) : Child → Prop where
  | intro {path : Bytes} {child : Child}
    (located : Lookup.locate world (Utf8.encode config.emacs) = .ok path)
    (started : Launch.start world path [Utf8.encode "--version"] [] = .ok child) :
    Answers config world child

/-- The version that is reported is that of the child's output. -/
theorem inspect_emacsVersion_of_answers {config : Config} {world : World} {child : Child}
    (h : Answers config world child) (locator : LibraryLocator) :
    (inspect config locator world).value.emacsVersion = version? child.program.stdout := by
  obtain ⟨located, started⟩ := h
  simp only [inspect, located, Except.toOption, askVersion, started, Traced.value_bind,
    Traced.value_pure]

/-- A version is reported only of an interpreter that answers. -/
theorem exists_answers_of_emacsVersion {config : Config} {locator : LibraryLocator}
    {world : World} (h : (inspect config locator world).value.emacsVersion ≠ none) :
    ∃ child, Answers config world child := by
  cases located : Lookup.locate world (Utf8.encode config.emacs) with
  | error error => simp [inspect, located, Except.toOption] at h
  | ok path =>
    cases started : Launch.start world path [Utf8.encode "--version"] [] with
    | error cause => simp [inspect, located, Except.toOption, askVersion, started] at h
    | ok child => exact ⟨child, located, started⟩

/-- A reason is reported if no helper library is found. -/
theorem inspect_libraryError (config : Config) (locator : LibraryLocator) (world : World) :
    (inspect config locator world).value.libraryError =
      match (locator.resolve world).value with
      | .ok _ => none
      | .error failure => some failure.message := by
  rw [inspect]
  cases Lookup.locate world (Utf8.encode config.emacs) with
  | error error => rfl
  | ok path => rfl

/-- A helper library is reported without a reason, on its line. -/
theorem inspect_of_library (config : Config) {locator : LibraryLocator} {world : World}
    {library : Bytes} (h : world.Library locator.configured locator.fallback library) :
    (inspect config locator world).value.library = some library ∧
      (inspect config locator world).value.libraryError = none ∧
      (inspect config locator world).value.libraryLine =
        "Library:  " ++ Utf8.lossy library ++ "\n" := by
  have hvalue : (locator.resolve world).value = .ok library := LibraryLocator.resolve_of_library h
  have hlibrary : (inspect config locator world).value.library = some library := by
    rw [(inspect_value config locator world).2.2.1, hvalue]
    rfl
  refine ⟨hlibrary, by rw [inspect_libraryError, hvalue], ?_⟩
  rw [Report.libraryLine, hlibrary]

/-- Without a helper library the reason is reported, on its line. -/
theorem inspect_of_noLibrary (config : Config) {locator : LibraryLocator} {world : World}
    (h : world.NoLibrary locator.configured locator.fallback) :
    (inspect config locator world).value.library = none ∧
      (inspect config locator world).value.libraryError =
        some (Failure.libraryNotFound locator.candidates).message ∧
      (inspect config locator world).value.libraryLine =
        "Library:  " ++ (Failure.libraryNotFound locator.candidates).message ++ "\n" := by
  have hvalue : (locator.resolve world).value = .error (.libraryNotFound locator.candidates) :=
    LibraryLocator.resolve_of_noLibrary h
  have hlibrary : (inspect config locator world).value.library = none := by
    rw [(inspect_value config locator world).2.2.1, hvalue]
    rfl
  have herror : (inspect config locator world).value.libraryError =
      some (Failure.libraryNotFound locator.candidates).message := by
    rw [inspect_libraryError, hvalue]
  refine ⟨hlibrary, herror, ?_⟩
  rw [Report.libraryLine, hlibrary, herror]

/-- A report has either a helper library or a reason why there is none. The library is the first
of the configured path and the fallback that leads to a regular file, and the reason lists both in
this order; the line about the library shows the one or the other. A version is there only if the
interpreter is found, and answers. For every output of the child that answers, it is absent
exactly if the output is no text or holds line ends only, and otherwise it is the first line of
what is left of the output without the line ends at its end. So it is a beginning of the output on
one line, and the same for all children with the same output. -/
theorem inspect_consistent (config : Config) (locator : LibraryLocator) (world : World) :
    ∃ report, (inspect config locator world).value = report ∧
      ((∃ library, world.Library locator.configured locator.fallback library ∧
          report.library = some library ∧ report.libraryError = none ∧
          report.libraryLine = "Library:  " ++ Utf8.lossy library ++ "\n") ∨
        (∃ message, world.NoLibrary locator.configured locator.fallback ∧
          message =
            "PRE_COMMIT_ELISP_LIB is not set or points to a non-existent file (searched: "
              ++ ", ".intercalate
                ((locator.configured.toList ++ [locator.fallback]).map Utf8.lossy) ++ ")" ∧
          report.library = none ∧ report.libraryError = some message ∧
          report.libraryLine = "Library:  " ++ message ++ "\n")) ∧
      (report.emacsVersion ≠ none →
        report.emacsPath ≠ none ∧ ∃ child, Answers config world child) ∧
      ∀ child, Answers config world child →
        (report.emacsVersion = none ↔
          Utf8.isValid child.program.stdout = false ∨
            ∀ byte ∈ child.program.stdout, byte = carriageReturn ∨ byte = lineFeed) ∧
        (∀ version, report.emacsVersion = some version ↔
          Utf8.isValid child.program.stdout = true ∧
            ∃ text, Trimmed child.program.stdout text ∧ text ≠ [] ∧
              FirstLine text (Utf8.encode version)) ∧
        (∀ version, report.emacsVersion = some version →
          Utf8.encode version <+: child.program.stdout ∧ ¬ BreaksLine version) ∧
        (∀ (config' : Config) (locator' : LibraryLocator) (world' : World) (child' : Child),
          Answers config' world' child' → child'.program.stdout = child.program.stdout →
          (inspect config' locator' world').value.emacsVersion = report.emacsVersion) := by
  refine ⟨_, rfl, ?_, ?_, ?_⟩
  · rcases world.library_or_noLibrary locator.configured locator.fallback with ⟨library, h⟩ | h
    · exact .inl ⟨library, h, inspect_of_library config h⟩
    · exact .inr ⟨_, h, rfl, inspect_of_noLibrary config h⟩
  · intro hversion
    obtain ⟨child, h⟩ := exists_answers_of_emacsVersion hversion
    refine ⟨?_, child, h⟩
    obtain ⟨located, -⟩ := h
    rw [inspect_emacsPath_eq_some_iff.2 located]
    exact Option.some_ne_none _
  · intro child h
    rw [inspect_emacsVersion_of_answers h locator]
    refine ⟨version?_eq_none_iff, fun version => version?_eq_some_iff,
      fun version => prefix_of_version?, ?_⟩
    intro config' locator' world' child' h' hsame
    rw [inspect_emacsVersion_of_answers h' locator', hsame]

/-- An interpreter that writes a version and another line, and is killed. -/
def killedInterpreter : Program where
  stdout := [0x33, carriageReturn, lineFeed, 0x34, carriageReturn, lineFeed]
  stderr := [0x35]
  ending := .signal 9

/-- A world with this interpreter and without a helper library. -/
def killedWorld : World where
  tree := ⟨[([Utf8.encode "emacs"], .program killedInterpreter)]⟩
  environment := ⟨[]⟩
  directory := ⟨[], 0⟩

/-- The child that is asked for its version in this world. -/
def killedChild : Child where
  executable := Utf8.encode "/emacs"
  arguments := [Utf8.encode "--version"]
  environment := ⟨[]⟩
  program := killedInterpreter

/-- The version of an interpreter is reported even if it is killed. -/
theorem inspect_consistent_of_killed_interpreter :
    Answers { emacs := "/emacs" } killedWorld killedChild ∧
    (inspect { emacs := "/emacs" } ⟨none, Utf8.encode "/lib.el"⟩ killedWorld).value.emacsVersion =
      some "3" ∧
    (inspect { emacs := "/emacs" } ⟨none, Utf8.encode "/lib.el"⟩ killedWorld).value.library =
      none := by
  have located : Lookup.locate killedWorld (Utf8.encode "/emacs") = .ok (Utf8.encode "/emacs") :=
    toOption_eq_some_iff.1 (by decide)
  have started : Launch.start killedWorld (Utf8.encode "/emacs") [Utf8.encode "--version"] [] =
      .ok killedChild :=
    toOption_eq_some_iff.1 (by decide)
  have answers : Answers { emacs := "/emacs" } killedWorld killedChild := .intro located started
  have trimmed : Trimmed killedInterpreter.stdout [0x33, carriageReturn, lineFeed, 0x34] :=
    trimmed_iff.2 (by decide)
  have first : FirstLine ([0x33] ++ carriageReturn :: lineFeed :: [0x34]) [0x33] :=
    .returnFeed (by decide)
  have hthree : Utf8.encode "3" = [0x33] := by decide
  have missing : killedWorld.isFile (Utf8.encode "/lib.el") = false := by decide
  obtain ⟨report, hreport, hlibrary, -, hversion⟩ :=
    inspect_consistent { emacs := "/emacs" } ⟨none, Utf8.encode "/lib.el"⟩ killedWorld
  obtain ⟨-, hiff, -⟩ := hversion killedChild answers
  rw [hreport]
  refine ⟨answers, (hiff "3").2 ⟨by decide, _, trimmed, by decide, ?_⟩, ?_⟩
  · rw [hthree]
    exact first
  · rcases hlibrary with ⟨library, found, -⟩ | ⟨message, -, -, hnone, -⟩
    · cases found with
      | configured given file => cases given
      | fallback absent file => exact absurd (missing.symm.trans file) Bool.false_ne_true
    · exact hnone

end Doctor

end EmacsBatch
