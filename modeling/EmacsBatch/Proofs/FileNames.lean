import EmacsBatch.Cli
import EmacsBatch.Proofs.Results

/-!
# File names on a hook's command line

A hook is called with the names of the files to check and nothing else, each name ending in
`.el`. Nothing stands between the command and the names, so a name that begins with a hyphen
is read as an option. All names are taken as files exactly when none of them begins with a
hyphen; otherwise the command line is refused, or the names with a hyphen are lost.
-/

namespace EmacsBatch.CommandLine

/-- The end of the name of an Emacs Lisp file. -/
def elispSuffix : Bytes := Utf8.encode ".el"

/-- The last byte of such a name. -/
def elispEnd : UInt8 := 0x6C

/-- A word with the suffix has its last byte. -/
theorem getLast?_of_suffix {word : Bytes} (h : elispSuffix <:+ word) :
    word.getLast? = some elispEnd := by
  obtain ⟨front, rfl⟩ := h
  rw [List.getLast?_append]
  rfl

/-- Assigning a setting leaves the files alone. -/
theorem Arguments.files_assign {taken next : Arguments} {setting : Setting} {value : Bytes}
    (h : taken.assign setting value = .ok next) : next.files = taken.files := by
  cases setting with
  | library =>
    simp only [assign] at h
    split at h
    · cases h
    · obtain ⟨path, -, rfl⟩ := map_eq_ok_iff.1 h
      rfl
  | emacs =>
    simp only [assign] at h
    split at h
    · cases h
    · split at h
      · cases h
      · cases h
        rfl
  | directory =>
    simp only [assign] at h
    obtain ⟨path, -, rfl⟩ := map_eq_ok_iff.1 h
    rfl
  | configFile =>
    simp only [assign] at h
    split at h
    · cases h
    · obtain ⟨path, -, rfl⟩ := map_eq_ok_iff.1 h
      rfl

/-- Turning on a flag leaves the files alone. -/
theorem Arguments.files_turnOn {taken next : Arguments} {switch : Switch}
    (h : taken.turnOn switch = .ok next) : next.files = taken.files := by
  cases switch with
  | verbose =>
    simp only [turnOn] at h
    split at h
    · cases h
    · cases h
      rfl
  | json =>
    simp only [turnOn] at h
    split at h
    · cases h
    · cases h
      rfl
  | help => cases h
  | version => cases h

/-- A state in which no option waits for its value, with the files that were read so far. -/
inductive State.Holds (files : List Bytes) : State → Prop where
  | settled {taken : Arguments} (h : taken.files = files) : Holds files ⟨taken, .nothing⟩
  | run {taken : Arguments} {names : List Bytes} (h : taken.files ++ names = files) :
    Holds files ⟨taken, .run names⟩

/-- Completing the last word takes all files read so far. -/
theorem State.Holds.settle {files : List Bytes} {state : State} {taken : Arguments}
    (h : state.Holds files) (hsettle : state.settle = .ok taken) : taken.files = files := by
  cases h with
  | settled h =>
    cases hsettle
    exact h
  | run h =>
    simp only [State.settle, Arguments.addFiles] at hsettle
    split at hsettle
    · cases hsettle
    · cases hsettle
      exact h

/-- A word that is no option is one more file. -/
theorem State.Holds.word {shape : Shape} {files : List Bytes} {state next : State} {word : Bytes}
    (h : state.Holds files) (hword : state.word shape word = .ok next) :
    next.Holds (files ++ [word]) := by
  cases h with
  | @settled taken h =>
    simp only [State.word] at hword
    split at hword
    · cases hword
      exact .run (by rw [h])
    · cases hword
  | @run taken names h =>
    cases hword
    exact .run (by rw [← h, List.append_assoc])

/-- No option and no flag has a name with this last byte. -/
theorem Shape.named?_eq_none (shape : Shape) {name : Bytes} (h : name.getLast? = some elispEnd) :
    shape.named? name = none := by
  have setting (setting : Setting) : Utf8.encode setting.name ≠ name := by
    rintro rfl
    cases setting <;> exact absurd h (by decide)
  have switch (switch : Switch) : Utf8.encode switch.name ≠ name := by
    rintro rfl
    cases switch <;> exact absurd h (by decide)
  simp [named?, setting, switch]

/-- No flag has this byte for its letter. -/
theorem Shape.lettered?_eq_none (shape : Shape) : shape.lettered? elispEnd = none := by
  have letter (switch : Switch) : switch.letter? ≠ some elispEnd := by
    cases switch <;> decide
  simp [lettered?, letter]

/-- A name without a value is the whole rest of its word. -/
theorem splitOnce_fst {separator : UInt8} {bytes : Bytes}
    (h : (Bytes.splitOnce separator bytes).2 = none) :
    (Bytes.splitOnce separator bytes).1 = bytes := by
  induction bytes with
  | nil => rfl
  | cons byte rest ih =>
    rw [Bytes.splitOnce] at h ⊢
    split
    · next hbyte => simp [hbyte] at h
    · next hbyte =>
      simp only [hbyte, if_false] at h
      exact congrArg (byte :: ·) (ih h)

/-- An option with two hyphens that ends like a file name has its value attached, and takes
no file away. -/
theorem State.Holds.named {shape : Shape} {files : List Bytes} {state next : State}
    {rest : Bytes} (h : state.Holds files) (hend : rest.getLast? = some elispEnd)
    (hnamed : state.named shape (Bytes.splitOnce equals rest).1 (Bytes.splitOnce equals rest).2 =
      .ok next) : next.Holds files := by
  cases hvalue : (Bytes.splitOnce equals rest).2 with
  | none =>
    rw [hvalue, splitOnce_fst hvalue] at hnamed
    unfold State.named at hnamed
    rw [shape.named?_eq_none hend] at hnamed
    cases hnamed
  | some value =>
    rw [hvalue] at hnamed
    unfold State.named at hnamed
    cases hname : shape.named? (Bytes.splitOnce equals rest).1 with
    | none =>
      rw [hname] at hnamed
      cases hnamed
    | some known =>
      rw [hname] at hnamed
      cases known with
      | inl setting =>
        obtain ⟨taken, hsettle, hnamed⟩ := bind_eq_ok_iff.1 hnamed
        obtain ⟨taken', hassign, hnamed⟩ := bind_eq_ok_iff.1 hnamed
        cases hnamed
        exact .settled ((Arguments.files_assign hassign).trans (h.settle hsettle))
      | inr switch => cases hnamed

/-- Letters that end like a file name have the value of the last one attached, and take no
file away. -/
theorem State.Holds.letters {shape : Shape} {files : List Bytes} {state next : State}
    {letters : Bytes} (h : state.Holds files) (hend : letters.getLast? = some elispEnd)
    (hletters : state.letters shape letters = .ok next) : next.Holds files := by
  induction letters generalizing state with
  | nil => cases hend
  | cons letter rest ih =>
    rw [State.letters] at hletters
    split at hletters
    · next hletter =>
      -- The directory letter is not the last one, so its value is attached to it.
      have hrest : rest ≠ [] := by
        rintro rfl
        rw [hletter] at hend
        exact absurd hend (by decide)
      obtain ⟨taken, hsettle, hletters⟩ := bind_eq_ok_iff.1 hletters
      rw [if_neg hrest] at hletters
      obtain ⟨taken', hassign, hletters⟩ := bind_eq_ok_iff.1 hletters
      cases hletters
      exact .settled ((Arguments.files_assign hassign).trans (h.settle hsettle))
    · split at hletters
      · next switch hswitch =>
        obtain ⟨taken, hsettle, hletters⟩ := bind_eq_ok_iff.1 hletters
        obtain ⟨taken', hturn, hletters⟩ := bind_eq_ok_iff.1 hletters
        -- The last letter is no flag, so the letters after this one end in it as well.
        have hrest : rest ≠ [] := by
          rintro rfl
          obtain rfl : letter = elispEnd := by simpa using hend
          rw [shape.lettered?_eq_none] at hswitch
          cases hswitch
        refine ih (.settled ((Arguments.files_turnOn hturn).trans (h.settle hsettle))) ?_ hletters
        rw [← hend, List.getLast?_cons_of_ne_nil hrest]
      · cases hletters

/-- A word that does not begin with a hyphen is no option. -/
theorem Word.ofBytes_of_ne_hyphen {word : Bytes} (h : word.head? ≠ some hyphen) :
    Word.ofBytes word = .other word := by
  match word, h with
  | [], _ => rfl
  | [_], _ => rfl
  | first :: second :: rest, h =>
    have hfirst : first ≠ hyphen := fun heq => h (congrArg some heq)
    rw [Word.ofBytes, if_pos hfirst]

/-- A word that begins with a hyphen and ends like a file name is an option with two hyphens
or a run of letters, and never the end of the options. -/
theorem Word.ofBytes_of_hyphen {word : Bytes} (h : word.head? = some hyphen)
    (hend : word.getLast? = some elispEnd) :
    (∃ rest, rest.getLast? = some elispEnd ∧ Word.ofBytes word =
      .named (Bytes.splitOnce equals rest).1 (Bytes.splitOnce equals rest).2) ∨
    (∃ letters, letters.getLast? = some elispEnd ∧ Word.ofBytes word = .letters letters) := by
  match word, h, hend with
  | [first], h, hend =>
    obtain rfl : first = hyphen := by simpa using h
    exact absurd hend (by decide)
  | first :: second :: rest, h, hend =>
    obtain rfl : first = hyphen := by simpa using h
    rw [List.getLast?_cons_cons] at hend
    by_cases hsecond : second = hyphen
    · subst hsecond
      have hrest : rest ≠ [] := by
        rintro rfl
        exact absurd hend (by decide)
      rw [List.getLast?_cons_of_ne_nil hrest] at hend
      refine .inl ⟨rest, hend, ?_⟩
      simp [Word.ofBytes, hrest]
    · refine .inr ⟨second :: rest, hend, ?_⟩
      simp [Word.ofBytes, hsecond]

/-- One file name adds itself to the files if it does not begin with a hyphen, and is lost as
a file otherwise. -/
theorem State.Holds.step {shape : Shape} {files rest : List Bytes} {state final : State}
    {name : Bytes} (h : state.Holds files) (hend : name.getLast? = some elispEnd)
    (hwords : state.words shape (name :: rest) = .ok final) :
    ∃ next : State, next.Holds (files ++ [name].filter fun name => name.head? ≠ some hyphen) ∧
      next.words shape rest = .ok final := by
  by_cases hhead : name.head? = some hyphen
  · have hnone : ([name].filter fun name => name.head? ≠ some hyphen) = [] := by
      simp [hhead]
    rw [hnone, List.append_nil]
    obtain ⟨after, hafter, hform⟩ | ⟨letters, hletters, hform⟩ :=
      Word.ofBytes_of_hyphen hhead hend
    · rw [State.words, hform] at hwords
      obtain ⟨next, hnamed, hwords⟩ := bind_eq_ok_iff.1 hwords
      exact ⟨next, h.named hafter hnamed, hwords⟩
    · rw [State.words, hform] at hwords
      obtain ⟨next, hnext, hwords⟩ := bind_eq_ok_iff.1 hwords
      exact ⟨next, h.letters hletters hnext, hwords⟩
  · have hsome : ([name].filter fun name => name.head? ≠ some hyphen) = [name] := by
      simp [hhead]
    rw [hsome]
    rw [State.words, Word.ofBytes_of_ne_hyphen hhead] at hwords
    obtain ⟨next, hword, hwords⟩ := bind_eq_ok_iff.1 hwords
    exact ⟨next, h.word hword, hwords⟩

/-- Reading file names takes those as files that do not begin with a hyphen, in order. -/
theorem State.Holds.words {shape : Shape} {files names : List Bytes} {state final : State}
    (h : state.Holds files) (hend : ∀ name ∈ names, name.getLast? = some elispEnd)
    (hwords : state.words shape names = .ok final) :
    final.Holds (files ++ names.filter fun name => name.head? ≠ some hyphen) := by
  induction names generalizing files state with
  | nil =>
    cases hwords
    rwa [List.filter_nil, List.append_nil]
  | cons name rest ih =>
    obtain ⟨next, hnext, hwords⟩ := h.step (hend name List.mem_cons_self) hwords
    have hfinal := ih hnext (fun name hname => hend name (List.mem_cons_of_mem _ hname)) hwords
    rwa [List.append_assoc, ← List.filter_append, List.singleton_append] at hfinal

/-- Names without a leading hyphen prolong a run of files. -/
theorem State.words_run (shape : Shape) (taken : Arguments) (before : List Bytes)
    {names : List Bytes}
    (h : ∀ name ∈ names, name.head? ≠ some hyphen) :
    State.words shape ⟨taken, .run before⟩ names = .ok ⟨taken, .run (before ++ names)⟩ := by
  induction names generalizing before with
  | nil => rw [List.append_nil]; rfl
  | cons name rest ih =>
    rw [State.words, Word.ofBytes_of_ne_hyphen (h name List.mem_cons_self)]
    have hrest := ih (before ++ [name])
      fun name hname => h name (List.mem_cons_of_mem _ hname)
    rwa [List.append_assoc, List.singleton_append] at hrest

/-- Names without a leading hyphen are exactly the files of a hook's command line. -/
theorem Shape.parse_of_ne_hyphen {names : List Bytes} (hempty : [] ∉ names)
    (h : ∀ name ∈ names, name.head? ≠ some hyphen) :
    Shape.hookCommand.parse names = .ok { files := names } := by
  cases names with
  | nil => rfl
  | cons name rest =>
    have hfirst : State.words hookCommand {} (name :: rest) =
        State.words hookCommand ⟨{}, .run [name]⟩ rest := by
      rw [State.words, Word.ofBytes_of_ne_hyphen (h name List.mem_cons_self)]
      rfl
    have hrest := State.words_run hookCommand {} [name]
      fun name hname => h name (List.mem_cons_of_mem _ hname)
    rw [Shape.parse, hfirst, hrest]
    change Arguments.addFiles {} (name :: rest) = _
    rw [Arguments.addFiles, if_neg hempty]
    rfl

/-- The names of Emacs Lisp files are all taken as files, with no setting given by them,
exactly when none of them begins with a hyphen, and then the hook runs on just these files. A
command line that is read at all leaves out every name that begins with a hyphen. -/
theorem Shape.parse_fileNames_iff {names : List Bytes}
    (h : ∀ name ∈ names, elispSuffix <:+ name) :
    (Shape.hookCommand.parse names = .ok { files := names } ↔
      ∀ name ∈ names, name.head? ≠ some hyphen) ∧
    (∀ arguments, Shape.hookCommand.parse names = .ok arguments →
      arguments.files = names.filter fun name => name.head? ≠ some hyphen) ∧
    ((∀ name ∈ names, name.head? ≠ some hyphen) →
      ∀ (target : Hook) (fallback : Bytes) (runner : Runner) (world : World),
        (Command.hook target).run names fallback runner world =
          target.execute { files := names } fallback runner world) := by
  have hend : ∀ name ∈ names, name.getLast? = some elispEnd :=
    fun name hname => getLast?_of_suffix (h name hname)
  have hempty : [] ∉ names := fun hname => nomatch hend [] hname
  have hfiles : ∀ arguments, Shape.hookCommand.parse names = .ok arguments →
      arguments.files = names.filter fun name => name.head? ≠ some hyphen := by
    intro arguments hparse
    obtain ⟨final, hwords, hsettle⟩ := bind_eq_ok_iff.1 hparse
    have hstart : State.Holds [] {} := .settled rfl
    exact (hstart.words hend hwords).settle hsettle
  refine ⟨⟨fun hparse => ?_, Shape.parse_of_ne_hyphen hempty⟩, hfiles, ?_⟩
  · have hall : names = names.filter fun name => name.head? ≠ some hyphen := hfiles _ hparse
    intro name hname
    simpa using List.filter_eq_self.1 hall.symm name hname
  · intro hplain target fallback runner world
    have hparse := Shape.parse_of_ne_hyphen hempty hplain
    simp only [Command.run, Command.runHook, hparse]
    rfl

/-- Two names, one of them with a hyphen inside, are both taken as files. -/
theorem Shape.parse_fileNames_of_inner_hyphen :
    (∀ name ∈ [Utf8.encode "a.el", Utf8.encode "sub/-b.el"], elispSuffix <:+ name) ∧
    Shape.hookCommand.parse [Utf8.encode "a.el", Utf8.encode "sub/-b.el"] =
      .ok { files := [Utf8.encode "a.el", Utf8.encode "sub/-b.el"] } :=
  have hsuffix : ∀ name ∈ [Utf8.encode "a.el", Utf8.encode "sub/-b.el"], elispSuffix <:+ name :=
    by decide
  ⟨hsuffix, (Shape.parse_fileNames_iff hsuffix).1.2 (by decide)⟩

/-- A file name is taken as a directory of the load path, and no file is left to check. -/
theorem Shape.parse_fileName_as_directory :
    elispSuffix <:+ Utf8.encode "-Lx.el" ∧
    Shape.hookCommand.parse [Utf8.encode "-Lx.el"] =
      .ok { settings := { loadPath := [Utf8.encode "x.el"] } } :=
  ⟨by decide, rfl⟩

end EmacsBatch.CommandLine
