import EmacsBatch.Proofs.Endings
import EmacsBatch.Proofs.Shapes

/-!
# The library that the environment names

A variable may name the helper library, and wins over the file and the fallback. It does so only
if its value is text: the settings of the environment are read as texts, and a value that is none
counts as unset, even where it is the path of a regular file. All other ways to name the library
keep to text as well, except for the flag, which takes any bytes. So a hook without the flag
never hands a library to its runner whose path is no text.
-/

namespace EmacsBatch

/-- The library of a configuration, if it has one, is at a path that is text. -/
def Config.TextLibrary (config : Config) : Prop :=
  ∀ path, config.library = some path → Utf8.isValid path = true

namespace Config

/-- A setting that is read from a value leaves the library text. -/
theorem TextLibrary.set {config : Config} (h : config.TextLibrary) {field : Field} {value : Json}
    {setting : field.Value} (stands : field.StandsFor value setting) :
    (config.set field setting).TextLibrary := by
  cases field with
  | library => exact (Field.exists_standsFor_library_iff setting).1 ⟨value, stands⟩
  | emacs => exact h
  | loadPath => exact h
  | logLevel => exact h

/-- Reading settings leaves the library text. -/
theorem TextLibrary.readFields {entries : List (Field × Json)} {start config : Config}
    (h : start.TextLibrary) (hread : readFields start entries = .ok config) :
    config.TextLibrary := by
  induction entries generalizing start with
  | nil =>
    cases hread
    exact h
  | cons entry rest ih =>
    obtain ⟨setting, stands, hrest⟩ := readFields_cons_eq_ok_iff.1 hread
    exact ih (h.set stands) hrest

/-- A file names a library by text only. -/
theorem textLibrary_of_ofFileText {source : String} {config : Config}
    (h : ofFileText source = .ok config) : config.TextLibrary := by
  have hdefault : Config.TextLibrary default := nofun
  rw [ofFileText] at h
  cases hentries : Toml.entriesOf? source with
  | none => simp [hentries] at h
  | some entries =>
    simp only [hentries] at h
    split at h
    · rename_i hread
      cases h
      exact hdefault.readFields hread
    · cases h

end Config

namespace Settings

/-- The layer at the bottom names a library by text only. -/
theorem Bottom.textLibrary {settings : Settings} {world : World} {directory : Bytes}
    {config : Config} (h : settings.Bottom world directory config) : config.TextLibrary := by
  cases h with
  | defaults absent => exact nofun
  | file chosen text describes => exact Config.textLibrary_of_ofFileText describes

variable {settings : Settings} {world : World} {directory : Bytes} {config : Config}

/-- Without its flag the library is the one that the environment leaves. -/
theorem exists_below_of_loadConfig (noFlag : settings.library = none)
    (loads : settings.loadConfig world directory = .ok config) :
    ∃ bottom below, settings.Bottom world directory bottom ∧
      world.environment.layer.Over bottom below ∧ config.library = below.library := by
  obtain ⟨bottom, below, hbottom, hbelow, -, habove, -⟩ := loadConfig_eq_ok_iff.1 loads
  refine ⟨bottom, below, hbottom, hbelow, ?_⟩
  rcases habove.library with ⟨path, -, given⟩ | ⟨kept, -⟩
  · rw [layer, noFlag] at given
    cases given
  · exact kept

/-- Without its flag the library is at a path that is text. -/
theorem textLibrary_of_loadConfig (noFlag : settings.library = none)
    (loads : settings.loadConfig world directory = .ok config) : config.TextLibrary := by
  obtain ⟨bottom, below, hbottom, hbelow, hlibrary⟩ := exists_below_of_loadConfig noFlag loads
  rw [Config.TextLibrary, hlibrary]
  rcases hbelow.library with ⟨path, hpath, text, -, rfl⟩ | ⟨kept, -⟩
  · rw [hpath]
    rintro - ⟨⟩
    exact (Utf8.isValid_iff_exists_encode _).2 ⟨text, rfl⟩
  · rw [kept]
    exact hbottom.textLibrary

/-- Without its flag the library is the one that a variable names by a text. -/
theorem library_of_variable {text : String} (noFlag : settings.library = none)
    (loads : settings.loadConfig world directory = .ok config)
    (supplies : world.environment.Supplies libraryVariable text) :
    config.library = some (Utf8.encode text) := by
  obtain ⟨bottom, below, -, hbelow, hlibrary⟩ := exists_below_of_loadConfig noFlag loads
  rw [hlibrary]
  rcases hbelow.library with ⟨path, hpath, other, hother, rfl⟩ | ⟨-, nothing⟩
  · rw [hpath, ← Option.some.inj (hother.1.symm.trans supplies.1)]
  · exact (nothing _ ⟨_, rfl, text, supplies, rfl⟩).elim

end Settings

/-- The world without an environment variable. -/
def World.without (world : World) (name : String) : World :=
  { world with environment := world.environment.unset (Utf8.encode name) }

/-- A variable whose value is no text might as well be unset, for all that is read as text. -/
theorem World.text?_without {world : World} {name : String} {value : Bytes}
    (given : world.environment.value? name = some value) (noText : Utf8.isValid value = false) :
    (world.without name).environment.text? = world.environment.text? := by
  have hnone : Utf8.decode? value = none :=
    Option.not_isSome_iff_eq_none.1 (Bool.eq_false_iff.1 noText)
  funext other
  rw [Environment.text?, Environment.text?]
  by_cases h : other = name
  · rw [h, given, Environment.value?, without, Environment.get?_unset_self]
    exact hnone.symm
  · have hother : Utf8.encode other ≠ Utf8.encode name := fun heq => h (Utf8.encode_injective heq)
    rw [Environment.value?, without, Environment.get?_unset_of_ne _ hother, ← Environment.value?]

section Without

variable {world : World} {name : String}
  (same : (world.without name).environment.text? = world.environment.text?)
include same

/-- A configuration depends on the environment through its texts only. -/
theorem Settings.loadConfig_without (settings : Settings) (directory : Bytes) :
    settings.loadConfig (world.without name) directory = settings.loadConfig world directory := by
  rw [loadConfig_eq, loadConfig_eq, same]
  rfl

/-- The first stages of a hook depend on the environment through its texts only. -/
theorem HookArguments.prepare_without (arguments : HookArguments) (fallback : Bytes) :
    arguments.prepare fallback (world.without name) = arguments.prepare fallback world := by
  rw [prepare, prepare]
  simp only [Settings.loadConfig_without same]
  rfl

/-- What a hook hands to its runner depends on the environment through its texts only. -/
theorem Hook.callsOf_execute_without (hook : Hook) (arguments : HookArguments) (fallback : Bytes)
    (runner : Runner) :
    callsOf (hook.execute arguments fallback runner (world.without name)).trace =
      callsOf (hook.execute arguments fallback runner world).trace := by
  rw [callsOf_execute_eq, callsOf_execute_eq, HookArguments.prepare_without same]

end Without

/-- A hook with files and a configuration names a library to its runner exactly if this is its
helper library. -/
theorem Hook.exists_call_iff {arguments : HookArguments} {world : World} {directory : Bytes}
    {config : Config} (files : arguments.files ≠ [])
    (here : world.currentDirectory = .ok directory)
    (loads : arguments.settings.loadConfig world directory = .ok config) (hook : Hook)
    (fallback : Bytes) (runner : Runner) (library : Bytes) :
    (∃ call, callsOf (hook.execute arguments fallback runner world).trace = [call] ∧
        call.assignments = [(Utf8.encode libraryVariable, library)]) ↔
      world.Library config.library fallback library := by
  have hassignments (context : Context) :
      (hook.invocation context arguments.files).assignments =
        [(Utf8.encode libraryVariable, context.library)] := by
    rw [invocation, Invocation.forHook_eq]
  constructor
  · rintro ⟨call, hcall, hlibrary⟩
    rw [callsOf_execute_eq] at hcall
    cases hvalue : (arguments.prepare fallback world).value with
    | error failure => simp [hvalue] at hcall
    | ok context =>
      simp only [hvalue, files, if_false, List.cons.injEq, and_true] at hcall
      rw [← hcall, hassignments] at hlibrary
      obtain ⟨here', loads', found⟩ := HookArguments.prepared_iff.2 hvalue
      cases here.symm.trans here'
      cases loads.symm.trans loads'
      cases hlibrary
      exact found
  · intro found
    have prepared := HookArguments.Prepared.intro here loads found
    have hcalls := hook.callsOf_attempt runner prepared files
    exact ⟨_, (hook.callsOf_execute ..).trans hcalls, hassignments _⟩

/-- A hook that has files, no flag for its library, a configuration and a fallback that is text
hands the path that the variable names to its runner exactly if the path is text, although there
is a file. If it is not text, the hook hands over what it would if the variable were unset. -/
theorem Hook.execute_names_library_of_variable {hook : Hook} {arguments : HookArguments}
    {bundled : String} {runner : Runner} {world : World} {directory path : Bytes}
    {config : Config} (files : arguments.files ≠ []) (noFlag : arguments.settings.library = none)
    (here : world.currentDirectory = .ok directory)
    (loads : arguments.settings.loadConfig world directory = .ok config)
    (given : world.environment.value? libraryVariable = some path) (nonempty : path ≠ [])
    (file : world.isFile path = true) :
    ((∃ call,
        callsOf (hook.execute arguments (Utf8.encode bundled) runner world).trace = [call] ∧
          call.assignments = [(Utf8.encode libraryVariable, path)]) ↔
      Utf8.isValid path = true) ∧
    (Utf8.isValid path = false →
      callsOf (hook.execute arguments (Utf8.encode bundled) runner world).trace =
        callsOf (hook.execute arguments (Utf8.encode bundled) runner
          (world.without libraryVariable)).trace) := by
  rw [exists_call_iff files here loads, Utf8.isValid_iff_exists_encode]
  refine ⟨⟨?named, ?wins⟩, ?dropped⟩
  case named =>
    intro found
    cases found with
    | configured hlibrary _ =>
      have htext := Settings.textLibrary_of_loadConfig noFlag loads path hlibrary
      exact (Utf8.isValid_iff_exists_encode path).1 htext
    | fallback _ _ => exact ⟨bundled, rfl⟩
  case wins =>
    rintro ⟨text, rfl⟩
    have htext : text ≠ "" := by
      rintro rfl
      exact nonempty rfl
    exact .configured (Settings.library_of_variable noFlag loads ⟨given, htext⟩) file
  case dropped =>
    intro noText
    exact (callsOf_execute_without (World.text?_without given noText) ..).symm

/-- A world with two helper libraries and a variable for the path of one of them. -/
def Hook.worldNaming (path : Bytes) : World where
  tree := ⟨[([[0xFF]], .file [] false), ([Utf8.encode "lib.el"], .file [] false),
    ([Utf8.encode "own.el"], .file [] false)]⟩
  environment := ⟨[(Utf8.encode libraryVariable, path)]⟩
  directory := ⟨[], 0⟩

/-- In such a world a hook hands over the path that the variable names if it is text. -/
theorem Hook.execute_names_library_of_own :
    [Utf8.encode "a.el"] ≠ [] ∧
    (Settings.loadConfig {} (worldNaming (Utf8.encode "/own.el")) (Utf8.encode "/")).toOption =
      some { library := some (Utf8.encode "/own.el") } ∧
    (worldNaming (Utf8.encode "/own.el")).isFile (Utf8.encode "/own.el") = true ∧
    ∃ call,
      callsOf (checkParens.execute ⟨[Utf8.encode "a.el"], {}⟩ (Utf8.encode "/lib.el")
        (.recorder none) (worldNaming (Utf8.encode "/own.el"))).trace = [call] ∧
      call.assignments = [(Utf8.encode libraryVariable, Utf8.encode "/own.el")] := by
  have hfiles : [Utf8.encode "a.el"] ≠ [] := List.cons_ne_nil _ _
  have hloads : (Settings.loadConfig {} (worldNaming (Utf8.encode "/own.el"))
      (Utf8.encode "/")).toOption = some { library := some (Utf8.encode "/own.el") } := by
    decide +kernel
  have hfile : (worldNaming (Utf8.encode "/own.el")).isFile (Utf8.encode "/own.el") = true := by
    decide +kernel
  refine ⟨hfiles, hloads, hfile, ?_⟩
  have htext : Utf8.isValid (Utf8.encode "/own.el") = true :=
    (Utf8.isValid_iff_exists_encode _).2 ⟨_, rfl⟩
  exact (execute_names_library_of_variable hfiles rfl rfl (toOption_eq_some_iff.1 hloads) rfl
    (by decide) hfile).1.2 htext

/-- In such a world a hook hands over the fallback if the variable names a path that is no
text, though there is a file and the configuration is loaded. -/
theorem Hook.execute_drops_library_without_text :
    (worldNaming [0x2F, 0xFF]).environment.value? libraryVariable = some [0x2F, 0xFF] ∧
    (worldNaming [0x2F, 0xFF]).isFile [0x2F, 0xFF] = true ∧
    (worldNaming [0x2F, 0xFF]).currentDirectory.toOption = some (Utf8.encode "/") ∧
    (Settings.loadConfig {} (worldNaming [0x2F, 0xFF]) (Utf8.encode "/")).toOption =
      some Config.default ∧
    (callsOf (Hook.checkParens.execute ⟨[Utf8.encode "a.el"], {}⟩ (Utf8.encode "/lib.el")
      (.recorder none) (worldNaming [0x2F, 0xFF])).trace).map Invocation.assignments =
        [[(Utf8.encode libraryVariable, Utf8.encode "/lib.el")]] := by
  decide +kernel

end EmacsBatch
