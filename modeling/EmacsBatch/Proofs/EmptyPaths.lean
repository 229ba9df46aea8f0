import EmacsBatch.Proofs.FileSettings
import EmacsBatch.Proofs.Items
import EmacsBatch.Proofs.Masking
import EmacsBatch.Proofs.PathLists

/-!
# Empty paths

An empty path names nothing. A command line never gives one, and of a list of directories in
the environment the empty ones are dropped. A file may give them, though, and nothing is asked
of paths after that. So an empty path is loaded exactly if the configuration file gives it and
no layer above the file gives this setting.
-/

namespace EmacsBatch

/-- No path that some settings give for the library or the load path is empty. -/
structure Settings.NoEmptyPath (settings : Settings) : Prop where
  library : settings.library ≠ some []
  loadPath : [] ∉ settings.loadPath

namespace CommandLine

variable {shape : Shape} {taken next : Arguments} {state final : State}

/-- One more setting leaves no empty path behind. -/
theorem Arguments.noEmptyPath_assign (h : taken.settings.NoEmptyPath) {setting : Setting}
    {value : Bytes} (hassign : taken.assign setting value = .ok next) :
    next.settings.NoEmptyPath := by
  obtain ⟨item, -, htake⟩ := exists_take_of_assign hassign
  rw [takeAll_singleton] at htake
  obtain ⟨hfits, rfl⟩ := take_eq_ok_iff.1 htake
  obtain ⟨library, loadPath⟩ := h
  cases item with
  | library path => exact ⟨fun heq => hfits.2 (Option.some.inj heq), loadPath⟩
  | directory path =>
    have hloadPath : [] ∉ taken.settings.loadPath ++ [path] := by
      simp only [List.mem_append, List.mem_singleton, not_or]
      exact ⟨loadPath, Ne.symm hfits⟩
    exact ⟨library, hloadPath⟩
  | file | emacs | configFile | verbose => exact ⟨library, loadPath⟩

/-- Files are no settings. -/
theorem Arguments.settings_addFiles {names : List Bytes} (h : taken.addFiles names = .ok next) :
    next.settings = taken.settings := by
  rw [addFiles] at h
  split at h <;> cases h
  rfl

/-- A flag leaves no empty path behind. -/
theorem Arguments.noEmptyPath_turnOn (h : taken.settings.NoEmptyPath) {switch : Switch}
    (hturn : taken.turnOn switch = .ok next) : next.settings.NoEmptyPath := by
  obtain ⟨library, loadPath⟩ := h
  cases switch with
  | verbose =>
    simp only [turnOn] at hturn
    split at hturn <;> cases hturn
    exact ⟨library, loadPath⟩
  | json =>
    simp only [turnOn] at hturn
    split at hturn <;> cases hturn
    exact ⟨library, loadPath⟩
  | help => cases hturn
  | version => cases hturn

/-- Completing the last word leaves no empty path behind. -/
theorem State.noEmptyPath_settle (h : state.taken.settings.NoEmptyPath)
    (hsettle : state.settle = .ok taken) : taken.settings.NoEmptyPath := by
  obtain ⟨before, pending⟩ := state
  cases pending with
  | nothing =>
    cases hsettle
    exact h
  | awaiting setting => cases hsettle
  | holding setting value => exact Arguments.noEmptyPath_assign h hsettle
  | run names => rwa [Arguments.settings_addFiles hsettle]

/-- A word that is no option leaves no empty path behind. -/
theorem State.noEmptyPath_word (h : state.taken.settings.NoEmptyPath) {word : Bytes}
    (hword : state.word shape word = .ok final) : final.taken.settings.NoEmptyPath := by
  obtain ⟨before, pending⟩ := state
  cases pending with
  | nothing | holding =>
    simp only [State.word] at hword
    split at hword
    · obtain ⟨taken, hsettle, hnext⟩ := bind_eq_ok_iff.1 hword
      cases hnext
      exact noEmptyPath_settle h hsettle
    · cases hword
  | awaiting setting =>
    cases hword
    exact h
  | run names =>
    cases hword
    exact h

/-- An option or flag with two hyphens leaves no empty path behind. -/
theorem State.noEmptyPath_named (h : state.taken.settings.NoEmptyPath) {name : Bytes}
    {value : Option Bytes} (hnamed : state.named shape name value = .ok final) :
    final.taken.settings.NoEmptyPath := by
  unfold State.named at hnamed
  split at hnamed
  · cases hnamed
  · obtain ⟨taken, hsettle, hnext⟩ := bind_eq_ok_iff.1 hnamed
    cases hnext
    exact noEmptyPath_settle h hsettle
  · obtain ⟨taken, hsettle, hnamed⟩ := bind_eq_ok_iff.1 hnamed
    obtain ⟨assigned, hassign, hnext⟩ := bind_eq_ok_iff.1 hnamed
    cases hnext
    exact Arguments.noEmptyPath_assign (noEmptyPath_settle h hsettle) hassign
  · obtain ⟨taken, hsettle, hnamed⟩ := bind_eq_ok_iff.1 hnamed
    obtain ⟨turned, hturn, hnext⟩ := bind_eq_ok_iff.1 hnamed
    cases hnext
    exact Arguments.noEmptyPath_turnOn (noEmptyPath_settle h hsettle) hturn
  · cases hnamed

/-- Letters after one hyphen leave no empty path behind. -/
theorem State.noEmptyPath_letters (h : state.taken.settings.NoEmptyPath) {letters : Bytes}
    (hletters : state.letters shape letters = .ok final) : final.taken.settings.NoEmptyPath := by
  induction letters generalizing state with
  | nil =>
    cases hletters
    exact h
  | cons letter rest ih =>
    rw [State.letters] at hletters
    split at hletters
    · obtain ⟨taken, hsettle, hletters⟩ := bind_eq_ok_iff.1 hletters
      split at hletters
      · cases hletters
        exact noEmptyPath_settle h hsettle
      · obtain ⟨assigned, hassign, hnext⟩ := bind_eq_ok_iff.1 hletters
        cases hnext
        exact Arguments.noEmptyPath_assign (noEmptyPath_settle h hsettle) hassign
    · split at hletters
      · obtain ⟨taken, hsettle, hletters⟩ := bind_eq_ok_iff.1 hletters
        obtain ⟨turned, hturn, hrest⟩ := bind_eq_ok_iff.1 hletters
        exact ih (Arguments.noEmptyPath_turnOn (noEmptyPath_settle h hsettle) hturn) hrest
      · cases hletters

/-- The words after the end of the options leave no empty path behind. -/
theorem State.noEmptyPath_trailing (h : state.taken.settings.NoEmptyPath) {words : List Bytes}
    (htrailing : state.trailing shape words = .ok final) : final.taken.settings.NoEmptyPath := by
  unfold State.trailing at htrailing
  split at htrailing
  · cases htrailing
    exact h
  · split at htrailing
    · cases htrailing
    · split at htrailing
      · cases htrailing
        exact h
      · obtain ⟨taken, hsettle, hnext⟩ := bind_eq_ok_iff.1 htrailing
        cases hnext
        exact noEmptyPath_settle h hsettle

/-- The words of a command line leave no empty path behind. -/
theorem State.noEmptyPath_words (h : state.taken.settings.NoEmptyPath) {words : List Bytes}
    (hwords : state.words shape words = .ok final) : final.taken.settings.NoEmptyPath := by
  induction words generalizing state with
  | nil =>
    cases hwords
    exact h
  | cons word rest ih =>
    rw [State.words] at hwords
    split at hwords
    · exact noEmptyPath_trailing h hwords
    · obtain ⟨between, hnamed, hrest⟩ := bind_eq_ok_iff.1 hwords
      exact ih (noEmptyPath_named h hnamed) hrest
    · obtain ⟨between, hletters, hrest⟩ := bind_eq_ok_iff.1 hwords
      exact ih (noEmptyPath_letters h hletters) hrest
    · obtain ⟨between, hword, hrest⟩ := bind_eq_ok_iff.1 hwords
      exact ih (noEmptyPath_word h hword) hrest

/-- No command line gives an empty path, whatever command it is for. -/
theorem Shape.noEmptyPath_parse {words : List Bytes} {arguments : Arguments}
    (h : shape.parse words = .ok arguments) : arguments.settings.NoEmptyPath := by
  obtain ⟨final, hwords, hsettle⟩ := bind_eq_ok_iff.1 h
  have hstart : Settings.NoEmptyPath {} := ⟨by simp, by simp⟩
  exact State.noEmptyPath_settle (State.noEmptyPath_words hstart hwords) hsettle

end CommandLine

/-- What no given value has, the upper value has exactly if the lower one has it and no value
is given. -/
theorem Replaces.holds_iff {α : Type} {given : α → Prop} {below above : α}
    (h : Replaces given below above) {p : α → Prop} (never : ∀ value, given value → ¬ p value) :
    p above ↔ p below ∧ ∀ value, ¬ given value := by
  rcases h with hgiven | ⟨rfl, hnone⟩
  · constructor
    · intro habove
      exact absurd habove (never above hgiven)
    · rintro ⟨-, hnone⟩
      exact absurd hgiven (hnone above)
  · exact ⟨fun habove => ⟨habove, hnone⟩, And.left⟩

/-- The environment never gives an empty directory. -/
theorem Environment.nil_notMem_of_layer {environment : Environment} {paths : List Bytes}
    (h : environment.layer.loadPath paths) : [] ∉ paths := by
  obtain ⟨text, -, rfl⟩ := h
  simp

/-- The environment never gives an empty library. -/
theorem Environment.ne_nil_of_layer {environment : Environment} {path : Bytes}
    (h : environment.layer.library path) : path ≠ [] := by
  obtain ⟨text, ⟨-, hne⟩, rfl⟩ := h
  exact mt Utf8.encode_eq_nil_iff.1 hne

namespace Settings

variable {settings : Settings} {world : World} {directory : Bytes}

/-- The chosen file is well formed and gives a setting a value. -/
def FileGives (settings : Settings) (world : World) (directory : Bytes) (field : Config.Field)
    (value : Json) : Prop :=
  ∃ path source entries, settings.chosenFile? world directory = some path ∧
    world.readText path = .ok source ∧ Toml.entriesOf? source = some entries ∧
    (Json.object (Toml.entriesToJson entries)).member? field.name = some value

/-- The file gives a setting at most one value. -/
theorem FileGives.unique {field : Config.Field} {value other : Json}
    (h : settings.FileGives world directory field value)
    (h' : settings.FileGives world directory field other) : value = other := by
  obtain ⟨path, source, entries, hchosen, htext, hentries, hmember⟩ := h
  obtain ⟨path', source', entries', hchosen', htext', hentries', hmember'⟩ := h'
  cases hchosen.symm.trans hchosen'
  cases htext.symm.trans htext'
  cases hentries.symm.trans hentries'
  exact Option.some.inj (hmember.symm.trans hmember')

/-- A setting at the bottom is what the file's value stands for, or the default where the file
gives none. -/
theorem Bottom.get {bottom : Config} (h : settings.Bottom world directory bottom)
    (field : Config.Field) :
    (∃ value, settings.FileGives world directory field value ∧
        field.StandsFor value (bottom.get field)) ∨
      bottom.get field = Config.default.get field ∧
        ∀ value, ¬ settings.FileGives world directory field value := by
  cases h with
  | defaults absent =>
    refine .inr ⟨rfl, ?_⟩
    rintro value ⟨path, source, entries, hchosen, -⟩
    cases absent.symm.trans hchosen
  | @file path source _ chosen text describes =>
    obtain ⟨entries, hentries, hread⟩ := Config.ofFileText_eq_ok_iff.1 describes
    have hfield := hread field
    rw [Config.Field.ReadFrom] at hfield
    cases hmember : (Json.object (Toml.entriesToJson entries)).member? field.name with
    | some value =>
      rw [hmember] at hfield
      exact .inl ⟨value, ⟨path, source, entries, chosen, text, hentries, hmember⟩, hfield⟩
    | none =>
      rw [hmember] at hfield
      refine .inr ⟨hfield, ?_⟩
      rintro value ⟨path', source', entries', hchosen, htext, hentries', hmember'⟩
      cases chosen.symm.trans hchosen
      cases text.symm.trans htext
      cases hentries.symm.trans hentries'
      cases hmember.symm.trans hmember'

/-- The load path at the bottom holds an empty path exactly if the file gives an empty text in
it. -/
theorem Bottom.nil_mem_loadPath_iff {bottom : Config}
    (h : settings.Bottom world directory bottom) :
    [] ∈ bottom.loadPath ↔ ∃ values,
      settings.FileGives world directory .loadPath (.array values) ∧ .string "" ∈ values := by
  rcases h.get .loadPath with ⟨value, hgives, texts, rfl, hpaths⟩ | ⟨hdefault, hnone⟩
  · have hloadPath : bottom.loadPath = texts.map Utf8.encode := hpaths
    have hempty : [] ∈ bottom.loadPath ↔ Json.string "" ∈ texts.map Json.string := by
      simp [hloadPath, Utf8.encode_eq_nil_iff]
    rw [hempty]
    constructor
    · intro hmem
      exact ⟨_, hgives, hmem⟩
    · rintro ⟨values, hvalues, hmem⟩
      cases hgives.unique hvalues
      exact hmem
  · have hloadPath : bottom.loadPath = [] := hdefault
    simp [hloadPath, hnone]

/-- The library at the bottom is the empty path exactly if the file gives the empty text for
it. -/
theorem Bottom.library_eq_some_nil_iff {bottom : Config}
    (h : settings.Bottom world directory bottom) :
    bottom.library = some [] ↔ settings.FileGives world directory .library (.string "") := by
  rcases h.get .library with
    ⟨value, hgives, ⟨rfl, hlibrary⟩ | ⟨text, rfl, hlibrary⟩⟩ | ⟨hdefault, hnone⟩
  · have hlibrary : bottom.library = none := hlibrary
    rw [hlibrary]
    constructor
    · rintro ⟨⟩
    · intro hempty
      cases hgives.unique hempty
  · have hlibrary : bottom.library = some (Utf8.encode text) := hlibrary
    rw [hlibrary, Option.some.injEq, Utf8.encode_eq_nil_iff]
    constructor
    · rintro rfl
      exact hgives
    · intro hempty
      cases hgives.unique hempty
      rfl
  · have hlibrary : bottom.library = none := hdefault
    simp [hlibrary, hnone]

/-- Without an empty path from the flags, an empty directory is loaded exactly if the file gives
one and no layer above it gives the load path. -/
theorem nil_mem_loadPath_iff (given : settings.NoEmptyPath) {config : Config}
    (loads : settings.loadConfig world directory = .ok config) :
    [] ∈ config.loadPath ↔
      (∃ values, settings.FileGives world directory .loadPath (.array values) ∧
        .string "" ∈ values) ∧
      (∀ text, ¬ world.environment.Supplies loadPathVariable text) ∧ settings.loadPath = [] := by
  obtain ⟨bottom, below, hbottom, hbelow, -, habove, -⟩ := loadConfig_eq_ok_iff.1 loads
  have hflags : ∀ paths, settings.layer.loadPath paths → ¬ [] ∈ paths := by
    rintro paths ⟨-, rfl⟩
    exact given.loadPath
  have hvariable : (∀ paths, ¬ world.environment.layer.loadPath paths) ↔
      ∀ text, ¬ world.environment.Supplies loadPathVariable text := by
    constructor
    · intro h text hsupplies
      exact h _ ⟨text, hsupplies, rfl⟩
    · rintro h paths ⟨text, hsupplies, -⟩
      exact h text hsupplies
  have hflag : (∀ paths, ¬ settings.layer.loadPath paths) ↔ settings.loadPath = [] := by
    simp [layer]
  rw [habove.loadPath.holds_iff hflags,
    hbelow.loadPath.holds_iff fun paths => Environment.nil_notMem_of_layer,
    hbottom.nil_mem_loadPath_iff, hvariable, hflag, and_assoc]

/-- Without an empty path from the flags, an empty library is loaded exactly if the file gives it
and no layer above it gives the library. -/
theorem library_eq_some_nil_iff (given : settings.NoEmptyPath) {config : Config}
    (loads : settings.loadConfig world directory = .ok config) :
    config.library = some [] ↔
      settings.FileGives world directory .library (.string "") ∧
      (∀ text, ¬ world.environment.Supplies libraryVariable text) ∧ settings.library = none := by
  obtain ⟨bottom, below, hbottom, hbelow, -, habove, -⟩ := loadConfig_eq_ok_iff.1 loads
  have hflags : ∀ library, (∃ path, library = some path ∧ settings.layer.library path) →
      ¬ library = some [] := by
    rintro _ ⟨path, rfl, hpath⟩ hempty
    exact given.library (hpath.trans hempty)
  have hvariables : ∀ library, (∃ path, library = some path ∧
      world.environment.layer.library path) → ¬ library = some [] := by
    rintro _ ⟨path, rfl, hpath⟩ hempty
    exact Environment.ne_nil_of_layer hpath (Option.some.inj hempty)
  have hvariable : (∀ library, ¬ ∃ path, library = some path ∧
      world.environment.layer.library path) ↔
      ∀ text, ¬ world.environment.Supplies libraryVariable text := by
    constructor
    · intro h text hsupplies
      exact h _ ⟨_, rfl, text, hsupplies, rfl⟩
    · rintro h _ ⟨path, -, text, hsupplies, -⟩
      exact h text hsupplies
  have hflag : (∀ library, ¬ ∃ path, library = some path ∧ settings.layer.library path) ↔
      settings.library = none := by
    rw [Option.eq_none_iff_forall_ne_some]
    constructor
    · intro h path hpath
      exact h _ ⟨path, rfl, hpath⟩
    · rintro h _ ⟨path, -, hpath⟩
      exact h path hpath
  rw [habove.library.holds_iff hflags, hbelow.library.holds_iff hvariables,
    hbottom.library_eq_some_nil_iff, hvariable, hflag, and_assoc]

/-- No command line gives an empty path, and settings without one load an empty path exactly if
the chosen file gives it and neither a variable nor a flag gives this setting. -/
theorem loadConfig_empty_paths (settings : Settings) (world : World) (directory : Bytes)
    (config : Config) :
    (∀ (shape : CommandLine.Shape) (words : List Bytes) (arguments : CommandLine.Arguments),
      shape.parse words = .ok arguments → arguments.settings.NoEmptyPath) ∧
    (settings.NoEmptyPath → settings.loadConfig world directory = .ok config →
      ([] ∈ config.loadPath ↔
        (∃ values, settings.FileGives world directory .loadPath (.array values) ∧
          .string "" ∈ values) ∧
        (∀ text, ¬ world.environment.Supplies loadPathVariable text) ∧ settings.loadPath = []) ∧
      (config.library = some [] ↔
        settings.FileGives world directory .library (.string "") ∧
        (∀ text, ¬ world.environment.Supplies libraryVariable text) ∧
        settings.library = none)) := by
  refine ⟨fun shape words arguments => CommandLine.Shape.noEmptyPath_parse, ?_⟩
  intro given loads
  exact ⟨nil_mem_loadPath_iff given loads, library_eq_some_nil_iff given loads⟩

/-- A flag and a variable displace the empty paths of a file. -/
theorem loadConfig_displaces_empty_paths :
    (CommandLine.Shape.hookCommand.parse [Utf8.encode "-Llisp"]).toOption =
      some { settings := { loadPath := [Utf8.encode "lisp"] } } ∧
    NoEmptyPath { loadPath := [Utf8.encode "lisp"] } ∧
    ∃ config, loadConfig { loadPath := [Utf8.encode "lisp"] }
        ((onlyFile "library=''\nload_path=['']").withVariable libraryVariable "lib.el") root =
          .ok config ∧ [] ∉ config.loadPath ∧ config.library ≠ some [] := by
  have hparse : (CommandLine.Shape.hookCommand.parse [Utf8.encode "-Llisp"]).toOption =
      some { settings := { loadPath := [Utf8.encode "lisp"] } } := by decide +kernel
  have hloads : (loadConfig { loadPath := [Utf8.encode "lisp"] }
      ((onlyFile "library=''\nload_path=['']").withVariable libraryVariable "lib.el")
      root).toOption = some
        { library := some (Utf8.encode "lib.el"), loadPath := [Utf8.encode "lisp"] } := by
    decide +kernel
  obtain ⟨hparsed, hlayers⟩ := loadConfig_empty_paths { loadPath := [Utf8.encode "lisp"] }
    ((onlyFile "library=''\nload_path=['']").withVariable libraryVariable "lib.el") root
      { library := some (Utf8.encode "lib.el"), loadPath := [Utf8.encode "lisp"] }
  have given := hparsed _ _ _ (toOption_eq_some_iff.1 hparse)
  obtain ⟨hloadPath, hlibrary⟩ := hlayers given (toOption_eq_some_iff.1 hloads)
  refine ⟨hparse, given, _, toOption_eq_some_iff.1 hloads, ?_⟩
  constructor
  · intro hmem
    cases (hloadPath.1 hmem).2.2
  · intro hempty
    exact (hlibrary.1 hempty).2.1 "lib.el" ⟨by decide +kernel, by decide⟩

/-- A file that gives empty paths is loaded with them. -/
theorem loadConfig_keeps_empty_paths :
    NoEmptyPath {} ∧
    (loadConfig {} (onlyFile "library=''\nload_path=['']") root).toOption =
      some { library := some [], loadPath := [[]] } :=
  ⟨⟨by simp, by simp⟩, by decide +kernel⟩

end Settings

end EmacsBatch
