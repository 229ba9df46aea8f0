import EmacsBatch.Cli
import EmacsBatch.Proofs.Grammar

/-!
# What can be spelled

The files and settings that some command line gives are exactly those without an empty path,
and each of them has its canonical spelling. A hook's command runs on what its command line
spells.
-/

namespace EmacsBatch.CommandLine

/-- Whether files and settings can be written on a hook's command line: no path is empty, and
no JSON output is asked for. -/
structure Arguments.Writable (arguments : Arguments) : Prop where
  json : arguments.json = false
  files : [] ∉ arguments.files
  library : arguments.settings.library ≠ some []
  loadPath : [] ∉ arguments.settings.loadPath
  configFile : arguments.settings.configFile ≠ some []

/-- One more item leaves them so. -/
theorem Arguments.Writable.take {taken next : Arguments} {item : Item} (h : taken.Writable)
    (htake : taken.take item = .ok next) : next.Writable := by
  obtain ⟨hfits, rfl⟩ := take_eq_ok_iff.1 htake
  obtain ⟨json, files, library, loadPath, configFile⟩ := h
  cases item with
  | file name =>
    have hfiles : [] ∉ taken.files ++ [name] := by
      simp only [List.mem_append, List.mem_singleton, not_or]
      exact ⟨files, Ne.symm hfits⟩
    exact ⟨json, hfiles, library, loadPath, configFile⟩
  | library path =>
    exact ⟨json, files, fun heq => hfits.2 (Option.some.inj heq), loadPath, configFile⟩
  | emacs program => exact ⟨json, files, library, loadPath, configFile⟩
  | directory path =>
    have hloadPath : [] ∉ taken.settings.loadPath ++ [path] := by
      simp only [List.mem_append, List.mem_singleton, not_or]
      exact ⟨loadPath, Ne.symm hfits⟩
    exact ⟨json, files, library, hloadPath, configFile⟩
  | configFile path =>
    exact ⟨json, files, library, loadPath, fun heq => hfits.2 (Option.some.inj heq)⟩
  | verbose => exact ⟨json, files, library, loadPath, configFile⟩

/-- A row of items leaves them so. -/
theorem Arguments.Writable.takeAll {taken next : Arguments} {items : List Item}
    (h : taken.Writable) (htake : taken.takeAll items = .ok next) : next.Writable := by
  induction items generalizing taken with
  | nil =>
    cases htake
    exact h
  | cons item rest ih =>
    obtain ⟨between, hitem, hrest⟩ := bind_eq_ok_iff.1 htake
    exact ih (h.take hitem) hrest

/-- What is spelled can be written. -/
theorem Spelling.writable {words : List Bytes} {arguments : Arguments}
    (h : Spelling words arguments) : arguments.Writable := by
  obtain ⟨items, -, hcompatible, hsum⟩ := h
  have hempty : Arguments.Writable {} := ⟨rfl, by simp, by simp, by simp, by simp⟩
  exact hempty.takeAll (Arguments.takeAll_eq_ok_iff.2 ⟨hcompatible, hsum⟩)

/-- The items of some settings, in the order of the canonical spelling. -/
def settingsItems (settings : Settings) : List Item :=
  (settings.library.map .library).toList ++ (settings.emacs.map .emacs).toList
    ++ settings.loadPath.map .directory ++ (settings.configFile.map .configFile).toList
    ++ (if settings.verbose then [.verbose] else [])

/-- Options with their values attached spell their items. -/
theorem Spells.attachedAll {α : Type} (setting : Setting) (item : α → Item) (value : α → Bytes)
    (gives : ∀ a, (item a).valued? = some (setting, value a)) (parts : List α) :
    Spells (parts.map item) (parts.map fun a => longWord setting.name ++ equals :: value a) := by
  induction parts with
  | nil => exact .nil
  | cons part rest ih => exact .attached (item part) setting (value part) (gives part) ih

/-- The canonical spelling spells the items of the settings and then the files. -/
theorem spellsAll_canonicalWords (arguments : Arguments) :
    SpellsAll (settingsItems arguments.settings ++ arguments.files.map .file)
      arguments.canonicalWords := by
  have hverbose : Spells (if arguments.settings.verbose then [.verbose] else [])
      (if arguments.settings.verbose then [longWord Switch.verbose.name] else []) := by
    split
    · exact .verbose .nil
    · exact .nil
  have hlibrary := Spells.attachedAll .library .library id (fun _ => rfl)
    arguments.settings.library.toList
  have hemacs := Spells.attachedAll .emacs .emacs Utf8.encode (fun _ => rfl)
    arguments.settings.emacs.toList
  have hloadPath := Spells.attachedAll .directory .directory id (fun _ => rfl)
    arguments.settings.loadPath
  have hconfigFile := Spells.attachedAll .configFile .configFile id (fun _ => rfl)
    arguments.settings.configFile.toList
  have hsettings := (((hlibrary.append hemacs).append hloadPath).append hconfigFile).append hverbose
  have hall := SpellsAll.closed arguments.files hsettings
  simp only [← Option.toList_map] at hall
  exact hall

/-- A library is taken where none is given yet. -/
theorem Arguments.takeAll_library {taken : Arguments} {path? : Option Bytes}
    (free : taken.settings.library = none) (h : path? ≠ some []) :
    taken.takeAll (path?.map .library).toList =
      .ok { taken with settings := { taken.settings with library := path? } } := by
  cases path? with
  | none =>
    have hsame : { taken with settings := { taken.settings with library := none } } = taken := by
      rw [← free]
    rw [hsame]
    rfl
  | some path =>
    have hfits : (Item.library path).Fits taken := ⟨free, fun heq => h (congrArg some heq)⟩
    exact (taken.takeAll_singleton _).trans (take_eq_ok_iff.2 ⟨hfits, rfl⟩)

/-- An interpreter is taken where none is given yet. -/
theorem Arguments.takeAll_emacs {taken : Arguments} {program? : Option String}
    (free : taken.settings.emacs = none) :
    taken.takeAll (program?.map .emacs).toList =
      .ok { taken with settings := { taken.settings with emacs := program? } } := by
  cases program? with
  | none =>
    have hsame : { taken with settings := { taken.settings with emacs := none } } = taken := by
      rw [← free]
    rw [hsame]
    rfl
  | some program => exact (taken.takeAll_singleton _).trans (take_eq_ok_iff.2 ⟨free, rfl⟩)

/-- A configuration file is taken where none is given yet. -/
theorem Arguments.takeAll_configFile {taken : Arguments} {path? : Option Bytes}
    (free : taken.settings.configFile = none) (h : path? ≠ some []) :
    taken.takeAll (path?.map .configFile).toList =
      .ok { taken with settings := { taken.settings with configFile := path? } } := by
  cases path? with
  | none =>
    have hsame : { taken with settings := { taken.settings with configFile := none } } = taken := by
      rw [← free]
    rw [hsame]
    rfl
  | some path =>
    have hfits : (Item.configFile path).Fits taken := ⟨free, fun heq => h (congrArg some heq)⟩
    exact (taken.takeAll_singleton _).trans (take_eq_ok_iff.2 ⟨hfits, rfl⟩)

/-- The verbose flag is taken where it is not given yet. -/
theorem Arguments.takeAll_verbose {taken : Arguments} {verbose : Bool}
    (free : taken.settings.verbose = false) :
    taken.takeAll (if verbose then [.verbose] else []) =
      .ok { taken with settings := { taken.settings with verbose := verbose } } := by
  cases verbose with
  | false =>
    have hsame : { taken with settings := { taken.settings with verbose := false } } = taken := by
      rw [← free]
    rw [hsame]
    rfl
  | true => exact (taken.takeAll_singleton _).trans (take_eq_ok_iff.2 ⟨free, rfl⟩)

/-- Directories are taken after those given already. -/
theorem Arguments.takeAll_loadPath {taken : Arguments} {directories : List Bytes}
    (h : [] ∉ directories) : taken.takeAll (directories.map .directory) =
      .ok { taken with settings :=
        { taken.settings with loadPath := taken.settings.loadPath ++ directories } } := by
  induction directories generalizing taken with
  | nil =>
    rw [List.append_nil]
    rfl
  | cons directory rest ih =>
    simp only [List.mem_cons, not_or] at h
    have hfirst : taken.take (.directory directory) = .ok (taken.add (.directory directory)) :=
      take_eq_ok_iff.2 ⟨Ne.symm h.1, rfl⟩
    rw [List.map_cons, ← List.singleton_append, takeAll_append, takeAll_singleton, hfirst, ok_bind,
      ih h.2]
    simp [add]

/-- What can be written is given by the items of its settings and its files. -/
theorem Arguments.Writable.takeAll_items {arguments : Arguments} (h : arguments.Writable) :
    Arguments.takeAll {} (settingsItems arguments.settings ++ arguments.files.map .file) =
      .ok arguments := by
  obtain ⟨files, settings, json⟩ := arguments
  obtain ⟨rfl, hfiles, hlibrary, hloadPath, hconfigFile⟩ := h
  rw [settingsItems, takeAll_append, takeAll_append, takeAll_append, takeAll_append, takeAll_append,
    takeAll_library rfl hlibrary, ok_bind, takeAll_emacs rfl, ok_bind, takeAll_loadPath hloadPath,
    ok_bind, takeAll_configFile rfl hconfigFile, ok_bind, takeAll_verbose rfl, ok_bind,
    ← addFiles_eq_takeAll, addFiles, if_neg hfiles]
  rfl

/-- What can be written is spelled by its canonical spelling. -/
theorem Arguments.Writable.spelling {arguments : Arguments} (h : arguments.Writable) :
    Spelling arguments.canonicalWords arguments := by
  obtain ⟨hcompatible, hsum⟩ := Arguments.takeAll_eq_ok_iff.1 h.takeAll_items
  exact ⟨_, spellsAll_canonicalWords arguments, hcompatible, hsum⟩

/-- A hook's command line is read to some files and settings exactly if it spells them. The
canonical spelling of files and settings is read back to them exactly if no path in them is
empty, which holds of all that is ever read. The hook's command then runs the hook on what was
spelled. -/
theorem Shape.parse_hookCommand_iff_spelling (words : List Bytes) (arguments : Arguments) :
    (Shape.hookCommand.parse words = .ok arguments ↔ Spelling words arguments) ∧
    (Shape.hookCommand.parse arguments.canonicalWords = .ok arguments ↔ arguments.Writable) ∧
    (Spelling words arguments → arguments.Writable ∧
      ∀ (target : Hook) (fallback : Bytes) (runner : Runner) (world : World),
        (Command.hook target).run words fallback runner world =
          target.execute (Command.hookArguments arguments) fallback runner world) := by
  have hparse (words : List Bytes) :
      Shape.hookCommand.parse words = .ok arguments ↔ Spelling words arguments :=
    Shape.parse_eq_ok_iff rfl rfl
  refine ⟨hparse words, ?_, fun hspelling => ⟨hspelling.writable, ?_⟩⟩
  · rw [hparse]
    exact ⟨Spelling.writable, Arguments.Writable.spelling⟩
  · intro target fallback runner world
    rw [Command.run, Command.runHook, (hparse words).2 hspelling]

/-- A cluster of letters, an option after a file, a lone hyphen as a value, and a second end of
the options as a file. -/
example : Shape.hookCommand.parse
    (["-vL=x", "a.el", "--emacs", "-", "--", "--"].map Utf8.encode) =
      .ok { files := ["a.el", "--"].map Utf8.encode
            settings := { emacs := some "-", loadPath := ["x"].map Utf8.encode, verbose := true } } :=
  by decide

end EmacsBatch.CommandLine
