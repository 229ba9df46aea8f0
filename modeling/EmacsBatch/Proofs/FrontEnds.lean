import EmacsBatch.Proofs.Spellings

/-!
# A hook's own command and its subcommand

A hook can be called by its own command and as a subcommand of the umbrella. The two command
lines are read by commands that know the same parameters but for the version flag, so words
that cannot ask for the version come out the same: the same files and settings for the same
hook, the same error, or a page of help whose first line is the same.
-/

namespace EmacsBatch.CommandLine

/-- The letter that stands for the version. -/
def versionLetter : UInt8 := 0x56

/-- Whether a word could ask for the version: by the flag's name, with a value or without, or
by its letter anywhere behind a single hyphen. -/
def AsksVersion (word : Bytes) : Prop :=
  word = longWord Switch.version.name ∨
  longWord Switch.version.name ++ [equals] <+: word ∨
  (word.head? = some hyphen ∧ word[1]? ≠ some hyphen ∧ versionLetter ∈ word)

instance : DecidablePred AsksVersion :=
  fun _ => inferInstanceAs (Decidable (_ ∨ _ ∨ _))

/-- Two commands that know the same parameters but for the version flag. -/
structure Shape.AlikeButVersion (shape other : Shape) : Prop where
  files : shape.takesFiles = other.takesFiles
  json : shape.hasJson = other.hasJson

section Alike

variable {shape other : Shape}

/-- They know the same flags for any purpose that the version flag does not serve. -/
theorem Shape.AlikeButVersion.find?_switches (alike : shape.AlikeButVersion other)
    (serves : Switch → Bool) (h : serves .version = false) :
    shape.switches.find? serves = other.switches.find? serves := by
  have hversion (hasVersion : Bool) :
      (if hasVersion then [Switch.version] else []).find? serves = none := by
    cases hasVersion with
    | false => rfl
    | true => simp [h]
  simp only [switches, List.find?_append, hversion, alike.json]

/-- They know the same by every other name. -/
theorem Shape.AlikeButVersion.named? (alike : shape.AlikeButVersion other) {name : Bytes}
    (h : name ≠ Utf8.encode Switch.version.name) : shape.named? name = other.named? name := by
  rw [Shape.named?, Shape.named?,
    alike.find?_switches (fun switch => Utf8.encode switch.name = name) (by simp [Ne.symm h])]

/-- They know the same by every other letter. -/
theorem Shape.AlikeButVersion.lettered? (alike : shape.AlikeButVersion other) {letter : UInt8}
    (h : letter ≠ versionLetter) : shape.lettered? letter = other.lettered? letter := by
  have hletter : Switch.version.letter? ≠ some letter := fun heq => h (Option.some.inj heq).symm
  exact alike.find?_switches (fun switch => switch.letter? = some letter) (by simp [hletter])

/-- They read a word that is no option in the same way. -/
theorem Shape.AlikeButVersion.word (alike : shape.AlikeButVersion other) (state : State)
    (word : Bytes) : state.word shape word = state.word other word := by
  simp only [State.word, alike.files]

/-- They read the words after the end of the options in the same way. -/
theorem Shape.AlikeButVersion.trailing (alike : shape.AlikeButVersion other) (state : State)
    (words : List Bytes) : state.trailing shape words = state.trailing other words := by
  simp only [State.trailing, alike.files]

/-- They read a name that is not the version flag's in the same way. -/
theorem Shape.AlikeButVersion.named (alike : shape.AlikeButVersion other) (state : State)
    {name : Bytes} (value : Option Bytes) (h : name ≠ Utf8.encode Switch.version.name) :
    state.named shape name value = state.named other name value := by
  unfold State.named
  rw [alike.named? h]

/-- They read letters without the version flag's in the same way. -/
theorem Shape.AlikeButVersion.letters (alike : shape.AlikeButVersion other) (state : State)
    {row : Bytes} (h : versionLetter ∉ row) :
    state.letters shape row = state.letters other row := by
  induction row generalizing state with
  | nil => rfl
  | cons letter rest ih =>
    simp only [List.mem_cons, not_or] at h
    simp only [State.letters, alike.lettered? (Ne.symm h.1), ih _ h.2]

/-- A name in a word that cannot ask for the version is not the version flag's. -/
theorem name_ne_version {word name : Bytes} {value : Option Bytes} (h : ¬ AsksVersion word)
    (hform : Word.ofBytes word = .named name value) : name ≠ Utf8.encode Switch.version.name := by
  rintro rfl
  have hbytes := Word.bytes_ofBytes word
  rw [hform] at hbytes
  cases value with
  | none => exact h (.inl hbytes.symm)
  | some value =>
    refine h (.inr (.inl ⟨value, ?_⟩))
    rw [← hbytes]
    simp [Word.bytes, longWord]

/-- Letters in a word that cannot ask for the version are other letters. -/
theorem versionLetter_not_mem {word row : Bytes} (h : ¬ AsksVersion word)
    (hform : Word.ofBytes word = .letters row) : versionLetter ∉ row := by
  obtain ⟨letter, rest, hletter, rfl, rfl⟩ := Word.exists_letterWord_of_letters hform
  intro hmem
  have hsecond : (letterWord letter rest)[1]? ≠ some hyphen :=
    fun heq => hletter (Option.some.inj heq)
  exact h (.inr (.inr ⟨rfl, hsecond, List.mem_cons_of_mem hyphen hmem⟩))

/-- They read words that cannot ask for the version in the same way. -/
theorem Shape.AlikeButVersion.words (alike : shape.AlikeButVersion other) (state : State)
    {words : List Bytes} (h : ∀ word ∈ words, ¬ AsksVersion word) :
    state.words shape words = state.words other words := by
  induction words generalizing state with
  | nil => rfl
  | cons word rest ih =>
    have hword := h word List.mem_cons_self
    have hrest (state : State) : state.words shape rest = state.words other rest :=
      ih state fun word hmem => h word (List.mem_cons_of_mem _ hmem)
    rw [State.words, State.words]
    cases hform : Word.ofBytes word with
    | endOfOptions => exact alike.trailing state rest
    | named name value => simp only [alike.named state value (name_ne_version hword hform), hrest]
    | letters row => simp only [alike.letters state (versionLetter_not_mem hword hform), hrest]
    | other inner => simp only [alike.word state inner, hrest]

/-- They read command lines that cannot ask for the version in the same way. -/
theorem Shape.AlikeButVersion.parse (alike : shape.AlikeButVersion other) {words : List Bytes}
    (h : ∀ word ∈ words, ¬ AsksVersion word) : shape.parse words = other.parse words := by
  rw [Shape.parse, Shape.parse, alike.words {} h]

end Alike

section NoVersion

variable {shape : Shape} {α β : Type}

/-- A result is no stop for the version. -/
theorem ok_ne_version (a : α) : (.ok a : Except Stop α) ≠ .error .version := by
  intro h
  cases h

/-- A wrong command line is no stop for the version. -/
theorem wrong_ne_version (error : UsageError) :
    (.error (.wrong error) : Except Stop α) ≠ .error .version := by
  intro h
  cases h

/-- Steps that never stop for the version do not stop for it together. -/
theorem bind_ne_version {first : Except Stop α} {next : α → Except Stop β}
    (hfirst : first ≠ .error .version) (hnext : ∀ a, next a ≠ .error .version) :
    first >>= next ≠ .error .version := by
  intro h
  rcases bind_eq_error_iff.1 h with h | ⟨a, -, h⟩
  · exact hfirst h
  · exact hnext a h

/-- Assigning a setting does not stop for the version. -/
theorem Arguments.assign_ne_version (taken : Arguments) (setting : Setting) (value : Bytes) :
    taken.assign setting value ≠ .error .version := by
  have hpath (change : Bytes → Arguments) :
      (nonempty setting value).map change ≠ .error .version := by
    rw [nonempty]
    split
    · exact wrong_ne_version _
    · exact ok_ne_version _
  cases setting with
  | directory => exact hpath _
  | library =>
    simp only [assign]
    split
    · exact wrong_ne_version _
    · exact hpath _
  | configFile =>
    simp only [assign]
    split
    · exact wrong_ne_version _
    · exact hpath _
  | emacs =>
    simp only [assign]
    split
    · exact wrong_ne_version _
    · split
      · exact wrong_ne_version _
      · exact ok_ne_version _

/-- Adding files does not stop for the version. -/
theorem Arguments.addFiles_ne_version (taken : Arguments) (names : List Bytes) :
    taken.addFiles names ≠ .error .version := by
  rw [addFiles]
  split
  · exact wrong_ne_version _
  · exact ok_ne_version _

/-- Settling does not stop for the version. -/
theorem State.settle_ne_version (state : State) : state.settle ≠ .error .version := by
  rw [settle]
  split
  · exact ok_ne_version _
  · exact wrong_ne_version _
  · exact Arguments.assign_ne_version _ _ _
  · exact Arguments.addFiles_ne_version _ _

/-- A flag of a command without a version flag does not stop for the version. -/
theorem Arguments.turnOn_ne_version (taken : Arguments) {switch : Switch}
    (version : shape.hasVersion = false) (known : switch ∈ shape.switches) :
    taken.turnOn switch ≠ .error .version := by
  cases switch with
  | verbose =>
    simp only [turnOn]
    split
    · exact wrong_ne_version _
    · exact ok_ne_version _
  | json =>
    simp only [turnOn]
    split
    · exact wrong_ne_version _
    · exact ok_ne_version _
  | help => simp [turnOn]
  | version => cases shape.hasJson <;> simp_all [Shape.switches]

/-- Reading a name does not stop for the version. -/
theorem State.named_ne_version (version : shape.hasVersion = false) (state : State)
    (name : Bytes) (value : Option Bytes) : state.named shape name value ≠ .error .version := by
  unfold State.named
  cases hknown : shape.named? name with
  | none => exact wrong_ne_version _
  | some known =>
    cases known with
    | inl setting =>
      cases value with
      | none => exact bind_ne_version state.settle_ne_version fun _ => ok_ne_version _
      | some value =>
        exact bind_ne_version state.settle_ne_version fun settled =>
          bind_ne_version (settled.assign_ne_version setting value) fun _ => ok_ne_version _
    | inr switch =>
      cases value with
      | none =>
        exact bind_ne_version state.settle_ne_version fun settled =>
          bind_ne_version
            (settled.turnOn_ne_version version (Shape.mem_switches_of_named? hknown))
            fun _ => ok_ne_version _
      | some value => exact wrong_ne_version _

/-- Reading letters does not stop for the version. -/
theorem State.letters_ne_version (version : shape.hasVersion = false) (state : State)
    (row : Bytes) : state.letters shape row ≠ .error .version := by
  induction row generalizing state with
  | nil => exact ok_ne_version _
  | cons letter rest ih =>
    rw [State.letters]
    split
    · refine bind_ne_version state.settle_ne_version fun settled => ?_
      split
      · exact ok_ne_version _
      · exact bind_ne_version (settled.assign_ne_version _ _) fun _ => ok_ne_version _
    · split
      · next switch hknown =>
        exact bind_ne_version state.settle_ne_version fun settled =>
          bind_ne_version (settled.turnOn_ne_version version (Shape.of_lettered? hknown).1)
            fun turned => ih ⟨turned, .nothing⟩
      · exact wrong_ne_version _

/-- Reading a word that is no option does not stop for the version. -/
theorem State.word_ne_version (state : State) (word : Bytes) :
    state.word shape word ≠ .error .version := by
  rw [State.word]
  split
  · exact ok_ne_version _
  · exact ok_ne_version _
  · split
    · exact bind_ne_version state.settle_ne_version fun _ => ok_ne_version _
    · exact wrong_ne_version _

/-- Reading the words after the end of the options does not stop for the version. -/
theorem State.trailing_ne_version (state : State) (words : List Bytes) :
    state.trailing shape words ≠ .error .version := by
  cases words with
  | nil => exact ok_ne_version _
  | cons first rest =>
    simp only [State.trailing]
    split
    · exact wrong_ne_version _
    · split
      · exact ok_ne_version _
      · exact bind_ne_version state.settle_ne_version fun _ => ok_ne_version _

/-- A command without a version flag never stops for the version. -/
theorem Shape.parse_ne_version (version : shape.hasVersion = false) (words : List Bytes) :
    shape.parse words ≠ .error .version := by
  have hwords (state : State) : state.words shape words ≠ .error .version := by
    induction words generalizing state with
    | nil => exact ok_ne_version _
    | cons word rest ih =>
      rw [State.words]
      cases Word.ofBytes word with
      | endOfOptions => exact state.trailing_ne_version rest
      | named name value => exact bind_ne_version (state.named_ne_version version name value) ih
      | letters row => exact bind_ne_version (state.letters_ne_version version row) ih
      | other inner => exact bind_ne_version (state.word_ne_version inner) ih
  exact bind_ne_version (hwords {}) State.settle_ne_version

end NoVersion

/-- The kinds of reasons why a command line leads to no run. -/
inductive Reason where
  | unknownArgument
  | invalidValue
  | argumentConflict
  | tooManyValues
  | invalidUtf8
  | invalidSubcommand
  | missingSubcommand
  | displayHelp
  | displayVersion
  deriving DecidableEq

/-- The kind of what is wrong with a command line. -/
def UsageError.reason : UsageError → Reason
  | .unknownArgument _ => .unknownArgument
  | .missingValue _ => .invalidValue
  | .repeated _ => .argumentConflict
  | .unexpectedValue _ _ => .tooManyValues
  | .notText => .invalidUtf8
  | .unknownSubcommand _ => .invalidSubcommand

/-- What a command line leads to: a run, or a failure of some kind with an exit status, and
with the first line of a message unless a page or the version was asked for. -/
inductive Outcome where
  | runs (request : Request)
  | fails (reason : Reason) (line : Option String) (status : Int)
  deriving DecidableEq

/-- What a wrong command line leads to. -/
def UsageError.outcome (error : UsageError) : Outcome :=
  .fails error.reason (some error.line) Command.usageStatus

/-- What a command line of a hook's own command leads to. -/
def hookOutcome (target : Hook) (words : List Bytes) : Outcome :=
  match Shape.hookCommand.parse words with
  | .ok arguments => .runs (.hook target arguments)
  | .error (.wrong error) => error.outcome
  | .error .help => .fails .displayHelp none 0
  | .error .version => .fails .displayVersion none 0

/-- What the umbrella says of itself, with all subcommands or with the hooks alone. -/
def Umbrella.summary (umbrella : Umbrella) : String :=
  if umbrella.hasDoctor then umbrellaSummary else hooksSummary

/-- What a command line of the umbrella leads to. -/
def Umbrella.outcome (umbrella : Umbrella) (words : List Bytes) : Outcome :=
  match umbrella.parse words with
  | .ok request => .runs request
  | .error (.wrong error) => error.outcome
  | .error (.page _) => .fails .displayHelp none 0
  | .error .version => .fails .displayVersion none 0
  | .error .noSubcommand =>
    .fails .missingSubcommand (some umbrella.summary) Command.usageStatus

/-- The word for a hook's subcommand. -/
def subcommandWord (target : Hook) : Bytes := Utf8.encode target.subcommand

/-- Every umbrella knows the hooks by their words. -/
theorem Umbrella.subcommand?_hook (umbrella : Umbrella) (target : Hook) :
    umbrella.subcommand? (subcommandWord target) = some (.hook target) := by
  cases target <;> rfl

/-- Behind a hook's word, every umbrella reads the rest as the hook's own command does. -/
theorem Umbrella.parse_hook (umbrella : Umbrella) (target : Hook) {words : List Bytes}
    (h : ∀ word ∈ words, ¬ AsksVersion word) :
    umbrella.parse (subcommandWord target :: words) =
      match Shape.hookCommand.parse words with
      | .ok arguments => .ok (.hook target arguments)
      | .error stop => .error (stop.refusal (.hookSubcommand target)) := by
  have hword : Word.ofBytes (subcommandWord target) = .other (subcommandWord target) := by
    cases target <;> rfl
  have alike : Shape.hookSubcommand.AlikeButVersion Shape.hookCommand := ⟨rfl, rfl⟩
  rw [parse, hword]
  simp only [umbrella.subcommand?_hook, dispatch, alike.parse h]
  rfl

/-- A text that goes on after a line feed has what is before it for its first line. -/
theorem firstLine_append {line : String} (h : '\n' ∉ line.toList)
    (hend : line.toList.getLast? ≠ some '\r') (rest : String) :
    Text.firstLine (line ++ "\n" ++ rest) = line := by
  have hkept : (line ++ "\n" ++ rest).toList.takeWhile (· ≠ '\n') = line.toList := by
    have hfeed : "\n".toList = ['\n'] := rfl
    rw [String.toList_append, String.toList_append, hfeed, List.append_assoc,
      List.takeWhile_append_of_pos]
    · simp
    · intro c hc
      simpa using fun heq : c = '\n' => h (heq ▸ hc)
  simp only [Text.firstLine, hkept, hend, and_false, if_false, String.ofList_toList]

/-- The page of a command begins with its summary. -/
theorem exists_commandPage_eq (summary usage : String) (shape : Shape) :
    ∃ rest, commandPage summary usage shape = summary ++ "\n" ++ rest := by
  have hopening : "\n\nUsage: " = "\n" ++ "\nUsage: " := by decide
  rw [commandPage, hopening]
  simp only [String.append_assoc]
  exact ⟨_, rfl⟩

/-- What a command writes instead of a run: the same line on the standard error as another
command, or a page whose first line is the same. -/
inductive WritesAlike : List Effect → List Effect → Prop where
  | refusal (line : String) : WritesAlike [.stderr line] [.stderr line]
  | pages {page other : String} (h : Text.firstLine page = Text.firstLine other) :
    WritesAlike [.stdout page] [.stdout other]

/-- Both pages of a hook begin with the same line. -/
theorem firstLine_hookPages (target : Hook) :
    Text.firstLine (Page.hookSubcommand target).text =
      Text.firstLine (Page.hookCommand target).text := by
  have hline : '\n' ∉ target.description.toList := by cases target <;> decide
  have hend : target.description.toList.getLast? ≠ some '\r' := by cases target <;> decide
  obtain ⟨rest, hsubcommand⟩ := exists_commandPage_eq target.description
    (umbrellaName ++ " " ++ target.subcommand) .hookSubcommand
  obtain ⟨rest', hcommand⟩ := exists_commandPage_eq target.description target.name .hookCommand
  rw [Page.text, Page.text, hsubcommand, hcommand, firstLine_append hline hend,
    firstLine_append hline hend]

/-- Words that cannot ask for the version lead to the same outcome behind a hook's word as on
the command line of the hook's own command: the same hook with the same files and settings, or
a failure of the same kind with the same first line and the same exit status. A run is the same
then, in every world. Where there is none, both commands end with the status of the failure and
write the same line, or pages with the same first line. -/
theorem Umbrella.outcome_hook (umbrella : Umbrella) (target : Hook) {words : List Bytes}
    (h : ∀ word ∈ words, ¬ AsksVersion word) :
    umbrella.outcome (subcommandWord target :: words) = hookOutcome target words ∧
    (∀ arguments, hookOutcome target words = .runs (.hook target arguments) →
      ∀ (fallback : Bytes) (runner : Runner) (world : World),
        (Command.umbrella.run (subcommandWord target :: words) fallback runner world =
          target.execute (Command.hookArguments arguments) fallback runner world) ∧
        (Command.hook target).run words fallback runner world =
          target.execute (Command.hookArguments arguments) fallback runner world) ∧
    (∀ reason line status, hookOutcome target words = .fails reason line status →
      ∀ (fallback : Bytes) (runner : Runner) (world : World),
        (Command.umbrella.run (subcommandWord target :: words) fallback runner world).value =
          status ∧
        ((Command.hook target).run words fallback runner world).value = status ∧
        WritesAlike
          (Command.umbrella.run (subcommandWord target :: words) fallback runner world).trace
          ((Command.hook target).run words fallback runner world).trace) := by
  have hfull := Umbrella.full.parse_hook target h
  have alike : Shape.hookCommand.AlikeButVersion Shape.hookSubcommand := ⟨rfl, rfl⟩
  -- The subcommand has no version flag, and reads these words as the hook's own command does.
  have hversion : Shape.hookCommand.parse words ≠ .error .version := by
    rw [alike.parse h]
    exact Shape.parse_ne_version rfl words
  rw [outcome, umbrella.parse_hook target h]
  simp only [hookOutcome, Command.run, Command.runUmbrella, Command.runHook, hfull]
  cases hparse : Shape.hookCommand.parse words with
  | ok arguments =>
    refine ⟨rfl, ?_, fun _ _ _ hfails => Outcome.noConfusion hfails⟩
    intro arguments' hruns fallback runner world
    cases hruns
    exact ⟨rfl, rfl⟩
  | error stop =>
    cases stop with
    | wrong error =>
      refine ⟨rfl, fun _ hruns => Outcome.noConfusion hruns, ?_⟩
      intro reason line status hfails fallback runner world
      cases hfails
      exact ⟨rfl, rfl, .refusal error.line⟩
    | help =>
      refine ⟨rfl, fun _ hruns => Outcome.noConfusion hruns, ?_⟩
      intro reason line status hfails fallback runner world
      cases hfails
      exact ⟨rfl, rfl, .pages (firstLine_hookPages target)⟩
    | version => exact absurd hparse hversion

/-- A command line on which a later word is unknown while an option before it waits for its
value. -/
theorem Umbrella.outcome_hook_of_unknown :
    (∀ word ∈ ["--lib", "--bad"].map Utf8.encode, ¬ AsksVersion word) ∧
    Umbrella.hooksOnly.outcome (subcommandWord .indent :: ["--lib", "--bad"].map Utf8.encode) =
      hookOutcome .indent (["--lib", "--bad"].map Utf8.encode) :=
  have h : ∀ word ∈ ["--lib", "--bad"].map Utf8.encode, ¬ AsksVersion word := by decide
  ⟨h, (Umbrella.outcome_hook .hooksOnly .indent h).1⟩

end EmacsBatch.CommandLine
