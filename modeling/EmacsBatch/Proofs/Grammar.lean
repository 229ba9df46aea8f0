import EmacsBatch.Proofs.Items
import EmacsBatch.Proofs.Words

/-!
# The grammar of a hook's command line

A hook's command line is read to exactly the files and settings that it spells. What has been
read when a word comes may be incomplete, so both directions speak of a state: what it has
taken once it is settled, or the option that still waits for its value.
-/

namespace EmacsBatch.CommandLine

/-- Two rows of spelled items are spelled in one row. -/
theorem Spells.append {items more : List Item} {words after : List Bytes}
    (h : Spells items words) (hmore : Spells more after) :
    Spells (items ++ more) (words ++ after) := by
  induction h with
  | nil => exact hmore
  | file name plain _ ih => exact .file name plain ih
  | attached item setting value gives _ ih =>
    exact .attached item setting value gives ih
  | apart item setting value gives plain _ ih => exact .apart item setting value gives plain ih
  | letter path rest more form _ ih =>
    simpa only [List.cons_append, List.append_assoc] using Spells.letter path rest more form ih
  | verbose _ ih => exact .verbose ih
  | verboseLetter _ ih => exact .verboseLetter ih
  | together path rest more form _ ih =>
    simpa only [List.cons_append, List.append_assoc] using Spells.together path rest more form ih

/-- Spelled items may stand before a whole command line. -/
theorem SpellsAll.prepend {items more : List Item} {words after : List Bytes}
    (h : Spells items words) (hmore : SpellsAll more after) :
    SpellsAll (items ++ more) (words ++ after) := by
  cases hmore with
  | «open» hmore => exact .open (h.append hmore)
  | closed names hmore =>
    rw [← List.append_assoc, ← List.append_assoc]
    exact .closed names (h.append hmore)

/-- Words that spell items which lead from one set of arguments to another. -/
def Arguments.Reaches (taken : Arguments) (words : List Bytes) (arguments : Arguments) : Prop :=
  ∃ items, SpellsAll items words ∧ taken.takeAll items = .ok arguments

/-- Spelled items that can be taken may stand before the words. -/
theorem Arguments.Reaches.prepend {taken next arguments : Arguments} {items : List Item}
    {words after : List Bytes} (h : Spells items words) (htake : taken.takeAll items = .ok next)
    (hafter : next.Reaches after arguments) : taken.Reaches (words ++ after) arguments := by
  obtain ⟨more, hmore, hmoreTake⟩ := hafter
  refine ⟨items ++ more, SpellsAll.prepend h hmore, ?_⟩
  rw [takeAll_append, htake, ok_bind, hmoreTake]

/-- What the words after a state must be for the state to end with some arguments: if the last
word is complete, they go on from what is taken then, and if an option waits for its value,
the value comes first. -/
inductive State.Completes (arguments : Arguments) : State → List Bytes → Prop where
  | settled {state : State} {taken : Arguments} {words : List Bytes}
    (h : state.settle = .ok taken) (rest : taken.Reaches words arguments) :
    Completes arguments state words
  | value {taken next : Arguments} {setting : Setting} {value : Bytes} {words : List Bytes}
    (plain : IsPlain value) (h : taken.assign setting value = .ok next)
    (rest : next.Reaches words arguments) :
    Completes arguments ⟨taken, .awaiting setting⟩ (value :: words)

variable {shape : Shape} {arguments : Arguments} {state next : State} {words : List Bytes}

/-- A state with nothing incomplete goes on from what was taken. -/
theorem State.Completes.reaches {taken : Arguments}
    (h : State.Completes arguments ⟨taken, .nothing⟩ words) : taken.Reaches words arguments := by
  cases h with
  | settled h rest =>
    cases h
    exact rest

/-- One more file may stand before the words. -/
theorem Arguments.Reaches.file {taken settled : Arguments} {name : Bytes} (plain : IsPlain name)
    (h : taken.addFiles [name] = .ok settled) (rest : settled.Reaches words arguments) :
    taken.Reaches (name :: words) arguments := by
  have htake : taken.takeAll [.file name] = .ok settled := by
    rw [← h, taken.addFiles_eq_takeAll]
    rfl
  exact rest.prepend (.file name plain .nil) htake

/-- A word that is no option completes what the state read after it is completed with. -/
theorem State.Completes.word {word : Bytes} (plain : IsPlain word)
    (hword : state.word shape word = .ok next) (h : next.Completes arguments words) :
    state.Completes arguments (word :: words) := by
  -- Where no run of files and no option is open, the word begins a run.
  have begins {taken : Arguments} (hsettle : state.settle = .ok taken)
      (h : State.Completes arguments ⟨taken, .run [word]⟩ words) :
      state.Completes arguments (word :: words) := by
    cases h with
    | settled h rest => exact .settled hsettle (rest.file plain h)
  obtain ⟨taken, pending⟩ := state
  cases pending with
  | nothing | holding =>
    simp only [State.word] at hword
    split at hword
    · obtain ⟨settled, hsettle, hnext⟩ := bind_eq_ok_iff.1 hword
      cases hnext
      exact begins hsettle h
    · cases hword
  | awaiting setting =>
    cases hword
    cases h with
    | settled h rest => exact .value plain h rest
  | run names =>
    cases hword
    cases h with
    | settled h rest =>
      have hsplit : taken.addFiles (names ++ [word]) = .ok _ := h
      rw [Arguments.addFiles_append] at hsplit
      obtain ⟨settled, hsettle, hfile⟩ := bind_eq_ok_iff.1 hsplit
      exact .settled hsettle (rest.file plain hfile)

/-- Reading goes on after no other flag than the verbose one. -/
theorem Switch.eq_verbose {switch : Switch} {taken settled : Arguments}
    (json : shape.hasJson = false) (known : switch ∈ shape.switches)
    (h : taken.turnOn switch = .ok settled) : switch = .verbose := by
  cases switch with
  | verbose => rfl
  | help => cases h
  | version => cases h
  | json => cases shape.hasVersion <;> simp_all [Shape.switches]

/-- An option or flag with two hyphens completes what the state read after it is completed
with. -/
theorem State.Completes.named {name : Bytes} {value : Option Bytes} (json : shape.hasJson = false)
    (hnamed : state.named shape name value = .ok next) (h : next.Completes arguments words) :
    state.Completes arguments ((Word.named name value).bytes :: words) := by
  unfold State.named at hnamed
  cases hknown : shape.named? name with
  | none =>
    rw [hknown] at hnamed
    cases hnamed
  | some known =>
    rw [hknown] at hnamed
    obtain rfl := Shape.name_of_named? hknown
    cases known with
    | inl setting =>
      cases value with
      | none =>
        obtain ⟨settled, hsettle, hnext⟩ := bind_eq_ok_iff.1 hnamed
        cases hnext
        cases h with
        | settled h rest => cases h
        | @value _ assigned _ value after plain hassign rest =>
          obtain ⟨item, gives, htake⟩ := Arguments.exists_take_of_assign hassign
          exact .settled hsettle (rest.prepend (.apart item setting value gives plain .nil) htake)
      | some value =>
        obtain ⟨settled, hsettle, hnamed⟩ := bind_eq_ok_iff.1 hnamed
        obtain ⟨assigned, hassign, hnext⟩ := bind_eq_ok_iff.1 hnamed
        cases hnext
        obtain ⟨item, gives, htake⟩ := Arguments.exists_take_of_assign hassign
        exact .settled hsettle
          (h.reaches.prepend (.attached item setting value gives .nil) htake)
    | inr switch =>
      cases value with
      | none =>
        obtain ⟨settled, hsettle, hnamed⟩ := bind_eq_ok_iff.1 hnamed
        obtain ⟨turned, hturn, hnext⟩ := bind_eq_ok_iff.1 hnamed
        cases hnext
        obtain rfl := Switch.eq_verbose json (Shape.mem_switches_of_named? hknown) hturn
        have htake : settled.takeAll [.verbose] = .ok turned := by
          rw [Arguments.takeAll_singleton, Arguments.take, hturn]
        exact .settled hsettle (h.reaches.prepend (.verbose .nil) htake)
      | some value => cases hnamed

/-- What follows the letter for a directory is a directory in one of its forms. -/
theorem State.Completes.directory {rest : Bytes}
    (hletters : state.letters shape (directoryLetter :: rest) = .ok next)
    (h : next.Completes arguments words) :
    ∃ settled taken path more after, state.settle = .ok settled ∧ LetterForm path rest more ∧
      settled.take (.directory path) = .ok taken ∧ taken.Reaches after arguments ∧
      words = more ++ after := by
  rw [State.letters, if_pos rfl] at hletters
  obtain ⟨settled, hsettle, hletters⟩ := bind_eq_ok_iff.1 hletters
  split at hletters
  · next hrest =>
    cases hletters
    cases h with
    | settled h rest => cases h
    | @value _ assigned _ path after plain hassign hafter =>
      rw [hrest]
      exact ⟨settled, assigned, path, [path], after, hsettle, .apart plain, hassign, hafter, rfl⟩
  · next hrest =>
    obtain ⟨assigned, hassign, hnext⟩ := bind_eq_ok_iff.1 hletters
    cases hnext
    have hform : LetterForm (attachedValue rest) rest [] := by
      rw [attachedValue]
      split
      · next hequals =>
        obtain ⟨path, rfl⟩ : ∃ path, rest = equals :: path := by
          cases rest with
          | nil => cases hequals
          | cons first path =>
            cases hequals
            exact ⟨path, rfl⟩
        exact .behindEquals
      · next hequals => exact .attached hrest hequals
    exact ⟨settled, assigned, _, [], words, hsettle, hform, hassign, h.reaches, rfl⟩

/-- Of the other letters, reading goes on only after the one for verbose. -/
theorem verbose_of_lettered {letter : UInt8} {switch : Switch} {taken settled : Arguments}
    (json : shape.hasJson = false) (known : shape.lettered? letter = some switch)
    (h : taken.turnOn switch = .ok settled) :
    letter = verboseLetter ∧ taken.take .verbose = .ok settled := by
  obtain ⟨hmem, hletter⟩ := Shape.of_lettered? known
  obtain rfl := Switch.eq_verbose json hmem h
  cases hletter
  exact ⟨rfl, h⟩

/-- After the letter for verbose comes nothing more or a directory, since the flag comes only
once. -/
theorem State.Completes.afterVerbose {settled turned : Arguments} {rest : Bytes}
    (json : shape.hasJson = false) (hverbose : settled.take .verbose = .ok turned)
    (hletters : State.letters shape ⟨turned, .nothing⟩ rest = .ok next)
    (h : next.Completes arguments words) :
    settled.Reaches (letterWord verboseLetter rest :: words) arguments := by
  have hflag : settled.takeAll [.verbose] = .ok turned := by
    rw [Arguments.takeAll_singleton, hverbose]
  cases rest with
  | nil =>
    cases hletters
    exact h.reaches.prepend (.verboseLetter .nil) hflag
  | cons letter rest =>
    by_cases hletter : letter = directoryLetter
    · subst hletter
      obtain ⟨settled', taken, path, more, after, hsettle, hform, htake, hafter, rfl⟩ :=
        State.Completes.directory hletters h
      cases hsettle
      have hspells := Spells.together path rest more hform .nil
      rw [List.append_nil] at hspells
      have hboth : settled.takeAll [.verbose, .directory path] = .ok taken := by
        rw [← List.singleton_append, Arguments.takeAll_append, hflag, ok_bind,
          Arguments.takeAll_singleton, htake]
      exact hafter.prepend hspells hboth
    · rw [State.letters, if_neg hletter] at hletters
      cases hknown : shape.lettered? letter with
      | none =>
        rw [hknown] at hletters
        cases hletters
      | some switch =>
        rw [hknown] at hletters
        obtain ⟨settled', hsettle, hturned⟩ := bind_eq_ok_iff.1 hletters
        obtain ⟨again, hturn, -⟩ := bind_eq_ok_iff.1 hturned
        cases hsettle
        obtain ⟨-, htwice⟩ := verbose_of_lettered json hknown hturn
        exact absurd htwice (Arguments.take_verbose_ne_ok hverbose again)

/-- Letters after one hyphen complete what the state read after them is completed with. -/
theorem State.Completes.letters {letter : UInt8} {rest : Bytes} (json : shape.hasJson = false)
    (hletters : state.letters shape (letter :: rest) = .ok next)
    (h : next.Completes arguments words) :
    state.Completes arguments (letterWord letter rest :: words) := by
  by_cases hletter : letter = directoryLetter
  · subst hletter
    obtain ⟨settled, taken, path, more, after, hsettle, hform, htake, hafter, rfl⟩ :=
      State.Completes.directory hletters h
    rw [← Arguments.takeAll_singleton] at htake
    have hspells := Spells.letter path rest more hform .nil
    rw [List.append_nil] at hspells
    exact .settled hsettle (hafter.prepend hspells htake)
  · rw [State.letters, if_neg hletter] at hletters
    cases hknown : shape.lettered? letter with
    | none =>
      rw [hknown] at hletters
      cases hletters
    | some switch =>
      rw [hknown] at hletters
      obtain ⟨settled, hsettle, hletters⟩ := bind_eq_ok_iff.1 hletters
      obtain ⟨turned, hturn, hrest⟩ := bind_eq_ok_iff.1 hletters
      obtain ⟨rfl, hverbose⟩ := verbose_of_lettered json hknown hturn
      exact .settled hsettle (State.Completes.afterVerbose json hverbose hrest h)

/-- The words after the end of the options are one more run of files. -/
theorem State.trailing_settle (files : shape.takesFiles = true) (state : State)
    (names : List Bytes) : (state.trailing shape names >>= State.settle) =
      state.settle >>= fun settled => settled.addFiles names := by
  cases names with
  | nil =>
    simp only [State.trailing, ok_bind, Arguments.addFiles_nil]
    exact (bind_pure state.settle).symm
  | cons first rest =>
    obtain ⟨taken, pending⟩ := state
    cases pending with
    | nothing => simp [State.trailing, State.settle, files, ok_bind]
    | awaiting setting => simp [State.trailing, State.settle, files, error_bind]
    | holding setting value => simp [State.trailing, State.settle, files]
    | run names =>
      simp only [State.trailing, files, Bool.not_true, Bool.false_eq_true, if_false, ok_bind]
      exact taken.addFiles_append names (first :: rest)

/-- Words after which a state settles complete that state. -/
theorem State.completes_of_words (files : shape.takesFiles = true) (json : shape.hasJson = false)
    {final : State} (hwords : state.words shape words = .ok final)
    (hsettle : final.settle = .ok arguments) : state.Completes arguments words := by
  -- The state is general, so that it may hold an option whose value is the next word.
  induction words generalizing state with
  | nil =>
    cases hwords
    exact .settled hsettle ⟨[], .open .nil, rfl⟩
  | cons word rest ih =>
    rw [State.words] at hwords
    have hbytes := Word.bytes_ofBytes word
    cases hform : Word.ofBytes word with
    | endOfOptions =>
      rw [hform] at hwords hbytes
      rw [← hbytes]
      have htrailing : state.trailing shape rest = .ok final := hwords
      have hall : (state.trailing shape rest >>= State.settle) = .ok arguments := by
        rw [htrailing, ok_bind, hsettle]
      rw [State.trailing_settle files] at hall
      obtain ⟨settled, hsettled, hfiles⟩ := bind_eq_ok_iff.1 hall
      rw [Arguments.addFiles_eq_takeAll] at hfiles
      exact .settled hsettled ⟨_, .closed rest .nil, hfiles⟩
    | named name value =>
      rw [hform] at hwords hbytes
      rw [← hbytes]
      obtain ⟨next, hnamed, hrest⟩ := bind_eq_ok_iff.1 hwords
      exact (ih hrest).named json hnamed
    | letters row =>
      obtain ⟨letter, rest', -, rfl, rfl⟩ := Word.exists_letterWord_of_letters hform
      rw [hform] at hwords
      obtain ⟨next, hletters, hrest⟩ := bind_eq_ok_iff.1 hwords
      exact (ih hrest).letters json hletters
    | other inner =>
      rw [hform] at hwords hbytes
      rw [← hbytes]
      obtain ⟨next, hword, hrest⟩ := bind_eq_ok_iff.1 hwords
      exact (ih hrest).word (Word.isPlain_of_other hform) hword

/-- Whether words are read as items: wherever the state can be settled and the items can be
taken then, the words bring it to a state that settles with them, whatever comes after. -/
def Reads (shape : Shape) (items : List Item) (words : List Bytes) : Prop :=
  ∀ (state : State) (settled taken : Arguments), state.settle = .ok settled →
    settled.takeAll items = .ok taken →
    ∃ final : State, final.settle = .ok taken ∧
      ∀ after, state.words shape (words ++ after) = final.words shape after

/-- Rows of words are read one after the other. -/
theorem Reads.append {items more : List Item} {after : List Bytes} (h : Reads shape items words)
    (hmore : Reads shape more after) : Reads shape (items ++ more) (words ++ after) := by
  intro state settled taken hsettle htake
  rw [Arguments.takeAll_append] at htake
  obtain ⟨between, hitems, hrest⟩ := bind_eq_ok_iff.1 htake
  obtain ⟨middle, hmiddle, hwords⟩ := h state settled between hsettle hitems
  obtain ⟨final, hfinal, hafter⟩ := hmore middle between taken hmiddle hrest
  refine ⟨final, hfinal, fun last => ?_⟩
  rw [List.append_assoc, hwords, hafter]

/-- A file on its own is read. -/
theorem Reads.file (files : shape.takesFiles = true) {name : Bytes} (plain : IsPlain name) :
    Reads shape [.file name] [name] := by
  intro state settled taken hsettle htake
  rw [Arguments.takeAll_singleton] at htake
  have hread (after : List Bytes) : state.words shape ([name] ++ after) =
      state.word shape name >>= fun next => next.words shape after := by
    rw [List.singleton_append, State.words, Word.ofBytes_of_isPlain plain]
  obtain ⟨before, pending⟩ := state
  have begins (h : State.word shape ⟨before, pending⟩ name = .ok ⟨settled, .run [name]⟩) :
      ∃ final : State, final.settle = .ok taken ∧ ∀ after,
        State.words shape ⟨before, pending⟩ ([name] ++ after) = final.words shape after := by
    refine ⟨⟨settled, .run [name]⟩, htake, fun after => ?_⟩
    rw [hread, h, ok_bind]
  cases pending with
  | nothing | holding =>
    exact begins (by simp [State.word, files, hsettle, ok_bind, pure, Except.pure])
  | awaiting setting => cases hsettle
  | run names =>
    refine ⟨⟨before, .run (names ++ [name])⟩, ?_, fun after => ?_⟩
    · have hsettled : before.addFiles names = .ok settled := hsettle
      change before.addFiles (names ++ [name]) = .ok taken
      rw [Arguments.addFiles_append, hsettled, ok_bind, ← htake]
      rfl
    · rw [hread]
      rfl

/-- A state in which an option waits reads the option's value. -/
theorem State.words_awaiting {value : Bytes} (plain : IsPlain value) (taken : Arguments)
    (setting : Setting) (after : List Bytes) :
    State.words shape ⟨taken, .awaiting setting⟩ (value :: after) =
      State.words shape ⟨taken, .holding setting value⟩ after := by
  rw [State.words, Word.ofBytes_of_isPlain plain]
  rfl

/-- An option with its value attached is read. -/
theorem Reads.attached {item : Item} {setting : Setting} {value : Bytes}
    (gives : item.valued? = some (setting, value)) :
    Reads shape [item] [longWord setting.name ++ equals :: value] := by
  intro state settled taken hsettle htake
  rw [Arguments.takeAll_singleton, Arguments.take_of_valued gives] at htake
  refine ⟨⟨taken, .nothing⟩, rfl, fun after => ?_⟩
  have hnamed : state.named shape (Utf8.encode setting.name) (some value) =
      .ok ⟨taken, .nothing⟩ := by
    simp [State.named, Shape.named?_setting, hsettle, htake, ok_bind, pure, Except.pure]
  rw [List.singleton_append, State.words, Word.ofBytes_attached setting.equals_not_mem_name]
  simp only [hnamed, ok_bind]

/-- An option with its value apart is read. -/
theorem Reads.apart {item : Item} {setting : Setting} {value : Bytes}
    (gives : item.valued? = some (setting, value)) (plain : IsPlain value) :
    Reads shape [item] [longWord setting.name, value] := by
  intro state settled taken hsettle htake
  rw [Arguments.takeAll_singleton, Arguments.take_of_valued gives] at htake
  refine ⟨⟨settled, .holding setting value⟩, htake, fun after => ?_⟩
  have hnamed : state.named shape (Utf8.encode setting.name) none =
      .ok ⟨settled, .awaiting setting⟩ := by
    simp [State.named, Shape.named?_setting, hsettle, ok_bind, pure, Except.pure]
  rw [List.cons_append, State.words,
    Word.ofBytes_longWord setting.encode_name_ne_nil setting.equals_not_mem_name]
  simp only [hnamed, ok_bind]
  exact State.words_awaiting plain settled setting after

/-- The verbose flag is read by its name. -/
theorem Reads.verbose : Reads shape [.verbose] [longWord Switch.verbose.name] := by
  intro state settled taken hsettle htake
  rw [Arguments.takeAll_singleton, Arguments.take] at htake
  refine ⟨⟨taken, .nothing⟩, rfl, fun after => ?_⟩
  have hnamed : state.named shape (Utf8.encode Switch.verbose.name) none =
      .ok ⟨taken, .nothing⟩ := by
    simp [State.named, Shape.named?_verbose, hsettle, htake, ok_bind, pure, Except.pure]
  rw [List.singleton_append, State.words, Word.ofBytes_longWord (by decide) (by decide)]
  simp only [hnamed, ok_bind]

/-- The letter for a directory is read with the directory, in any of its forms. -/
theorem State.letters_directory (shape : Shape) {path rest : Bytes} {more : List Bytes}
    {settled taken : Arguments} (form : LetterForm path rest more) (hsettle : state.settle = .ok settled)
    (htake : settled.take (.directory path) = .ok taken) :
    ∃ next final : State, state.letters shape (directoryLetter :: rest) = .ok next ∧
      final.settle = .ok taken ∧
      ∀ after, next.words shape (more ++ after) = final.words shape after := by
  rw [State.letters, if_pos rfl, hsettle, ok_bind]
  cases form with
  | apart plain => exact ⟨_, ⟨settled, .holding .directory path⟩, rfl, htake,
      State.words_awaiting plain settled .directory⟩
  | behindEquals =>
    refine ⟨⟨taken, .nothing⟩, ⟨taken, .nothing⟩, ?_, rfl, fun after => rfl⟩
    have hassign : settled.assign .directory (attachedValue (equals :: path)) = .ok taken := htake
    rw [if_neg (List.cons_ne_nil _ _), hassign]
    rfl
  | attached nonempty other =>
    refine ⟨⟨taken, .nothing⟩, ⟨taken, .nothing⟩, ?_, rfl, fun after => rfl⟩
    have hvalue : attachedValue path = path := if_neg other
    have hassign : settled.assign .directory path = .ok taken := htake
    rw [if_neg nonempty, hvalue, hassign]
    rfl

/-- The letter for verbose is read, and then the letters after it. -/
theorem State.letters_verbose (shape : Shape) {settled taken : Arguments}
    (hsettle : state.settle = .ok settled) (htake : settled.take .verbose = .ok taken) (rest : Bytes) :
    state.letters shape (CommandLine.verboseLetter :: rest) =
      State.letters shape ⟨taken, .nothing⟩ rest := by
  have hletter : shape.lettered? CommandLine.verboseLetter = some .verbose := rfl
  have hturn : settled.turnOn .verbose = .ok taken := htake
  rw [State.letters, if_neg (by decide)]
  simp only [hletter, hsettle, hturn, ok_bind]

/-- A directory is read after its letter. -/
theorem Reads.letter {path rest : Bytes} {more : List Bytes} (form : LetterForm path rest more) :
    Reads shape [.directory path] (letterWord directoryLetter rest :: more) := by
  intro state settled taken hsettle htake
  rw [Arguments.takeAll_singleton] at htake
  obtain ⟨next, final, hletters, hfinal, hmore⟩ := State.letters_directory shape form hsettle htake
  refine ⟨final, hfinal, fun after => ?_⟩
  rw [List.cons_append, State.words, Word.ofBytes_letterWord (by decide)]
  simp only [hletters, ok_bind, hmore]

/-- The verbose flag is read by its letter. -/
theorem Reads.verboseLetter :
    Reads shape [.verbose] [letterWord CommandLine.verboseLetter []] := by
  intro state settled taken hsettle htake
  rw [Arguments.takeAll_singleton] at htake
  refine ⟨⟨taken, .nothing⟩, rfl, fun after => ?_⟩
  rw [List.singleton_append, State.words, Word.ofBytes_letterWord (by decide)]
  simp only [State.letters_verbose shape hsettle htake]
  rfl

/-- The letters for verbose and for a directory are read together. -/
theorem Reads.together {path rest : Bytes} {more : List Bytes}
    (form : LetterForm path rest more) :
    Reads shape [.verbose, .directory path]
      (letterWord CommandLine.verboseLetter (directoryLetter :: rest) :: more) := by
  intro state settled taken hsettle htake
  rw [← List.singleton_append, Arguments.takeAll_append, Arguments.takeAll_singleton] at htake
  obtain ⟨turned, hturn, hdirectory⟩ := bind_eq_ok_iff.1 htake
  rw [Arguments.takeAll_singleton] at hdirectory
  have hturned : State.settle ⟨turned, .nothing⟩ = .ok turned := rfl
  obtain ⟨next, final, hletters, hfinal, hmore⟩ :=
    State.letters_directory shape form hturned hdirectory
  refine ⟨final, hfinal, fun after => ?_⟩
  rw [List.cons_append, State.words, Word.ofBytes_letterWord (by decide)]
  simp only [State.letters_verbose shape hsettle hturn, hletters, ok_bind, hmore]

/-- What spells items is read as them. -/
theorem Spells.reads (files : shape.takesFiles = true) {items : List Item}
    (h : Spells items words) : Reads shape items words := by
  induction h with
  | nil =>
    intro state settled taken hsettle htake
    cases htake
    exact ⟨state, hsettle, fun _ => rfl⟩
  | file name plain _ ih => exact (Reads.file files plain).append ih
  | attached item setting value gives _ ih => exact (Reads.attached gives).append ih
  | apart item setting value gives plain _ ih => exact (Reads.apart gives plain).append ih
  | letter path rest more form _ ih => exact (Reads.letter form).append ih
  | verbose _ ih => exact Reads.verbose.append ih
  | verboseLetter _ ih => exact Reads.verboseLetter.append ih
  | together path rest more form _ ih => exact (Reads.together form).append ih

/-- Words that lead on from what a state has taken bring it there. -/
theorem Arguments.Reaches.words_settle (files : shape.takesFiles = true) {settled : Arguments}
    (h : settled.Reaches words arguments) (hsettle : state.settle = .ok settled) :
    (state.words shape words >>= State.settle) = .ok arguments := by
  obtain ⟨items, hspells, htake⟩ := h
  cases hspells with
  | «open» hspells =>
    obtain ⟨final, hfinal, hwords⟩ := hspells.reads files state settled arguments hsettle htake
    have hall := hwords []
    rw [List.append_nil] at hall
    rw [hall, State.words, ok_bind, hfinal]
  | closed names hspells =>
    rw [takeAll_append] at htake
    obtain ⟨taken, hitems, hnames⟩ := bind_eq_ok_iff.1 htake
    obtain ⟨final, hfinal, hwords⟩ := hspells.reads files state settled taken hsettle hitems
    -- The files after the end of the options are taken without looking at their form.
    have hend : Word.ofBytes (longWord "") = .endOfOptions := rfl
    rw [hwords, State.words, hend]
    change (final.trailing shape names >>= State.settle) = .ok arguments
    rw [State.trailing_settle files, hfinal, ok_bind, addFiles_eq_takeAll, hnames]

/-- A command line for files and settings is read to some arguments exactly if it spells them. -/
theorem Shape.parse_eq_ok_iff (files : shape.takesFiles = true) (json : shape.hasJson = false) :
    shape.parse words = .ok arguments ↔ Spelling words arguments := by
  have hreaches : Arguments.Reaches {} words arguments ↔ Spelling words arguments := by
    simp only [Arguments.Reaches, Spelling, Arguments.takeAll_eq_ok_iff]
  rw [← hreaches]
  constructor
  · intro hparse
    obtain ⟨final, hwords, hsettle⟩ := bind_eq_ok_iff.1 hparse
    exact (State.completes_of_words files json hwords hsettle).reaches
  · intro h
    exact h.words_settle files rfl

end EmacsBatch.CommandLine
