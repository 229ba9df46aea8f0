import EmacsBatch.Proofs.Layers
import EmacsBatch.Proofs.Results

/-!
# Loading a configuration

Which configuration is loaded, and why none is. The file is chosen first: the one that a flag
names, and otherwise the one of the directory if it is there. The environment lies over what
the file describes, and the flags lie over both. The configuration must be valid before the
flags are laid over it and again afterwards.

The format of configuration files is that of their reader. What is said here holds whatever
texts the reader accepts.
-/

namespace EmacsBatch

/-- A failure to load: a file that cannot be read, or an invalid configuration. -/
def Failure.IsLoading (failure : Failure) : Prop :=
  (∃ cause, failure = .io cause) ∨ ∃ message, failure = .invalidConfig message

namespace Config

/-- A file describes a configuration exactly when its text can be read and describes it. -/
theorem readFile_eq_ok_iff {world : World} {path : Bytes} {config : Config} :
    readFile world path = .ok config ↔
      ∃ source, world.readText path = .ok source ∧ ofFileText source = .ok config := by
  rw [readFile]
  cases world.readText path with
  | error cause => simp
  | ok source => cases h : ofFileText source <;> simp [h]

/-- The operating system's errors are those met in reading the text of the file. -/
theorem readFile_eq_io_iff {world : World} {path : Bytes} {cause : SystemError} :
    readFile world path = .error (.io cause) ↔ world.readText path = .error cause := by
  rw [readFile]
  cases world.readText path with
  | error other => simp
  | ok source => cases h : ofFileText source <;> simp [h]

/-- A file that gives no configuration gives a failure to load. -/
theorem isLoading_of_readFile {world : World} {path : Bytes} {failure : Failure}
    (h : readFile world path = .error failure) : failure.IsLoading := by
  rw [readFile] at h
  cases htext : world.readText path with
  | error cause =>
    rw [htext] at h
    exact .inl ⟨cause, (Except.error.inj h).symm⟩
  | ok source =>
    cases hparse : ofFileText source with
    | error message =>
      simp only [htext, hparse] at h
      exact .inr ⟨_, (Except.error.inj h).symm⟩
    | ok config => simp [htext, hparse] at h

/-- Only an invalid configuration is refused, with the message of its first problem. -/
theorem validated_eq_error_iff {config : Config} {failure : Failure} :
    config.validated = .error failure ↔
      ∃ problem, config.problem? = some problem ∧ failure = .invalidConfig problem.message := by
  rw [validated]
  cases config.problem? with
  | none => simp
  | some problem => simp [eq_comm]

/-- The check never blames the operating system. -/
theorem validated_ne_io (config : Config) (cause : SystemError) :
    config.validated ≠ .error (.io cause) := by
  intro h
  obtain ⟨problem, -, hfailure⟩ := validated_eq_error_iff.1 h
  cases hfailure

end Config

namespace Settings

/-- The configuration file that is read: the one that a flag names, and otherwise that of the
directory, if its path leads to anything. -/
def chosenFile? (settings : Settings) (world : World) (directory : Bytes) : Option Bytes :=
  match settings.configFile with
  | some path => some path
  | none =>
    if world.pathExists (Config.filePath directory) then some (Config.filePath directory) else none

/-- The layer at the bottom: what the chosen file describes, or the defaults if there is no
file. -/
inductive Bottom (settings : Settings) (world : World) (directory : Bytes) : Config → Prop where
  | defaults (absent : settings.chosenFile? world directory = none) :
    Bottom settings world directory Config.default
  | file {path : Bytes} {source : String} {config : Config}
    (chosen : settings.chosenFile? world directory = some path)
    (text : world.readText path = .ok source) (describes : Config.ofFileText source = .ok config) :
    Bottom settings world directory config

/-- The configuration at the bottom, or the failure to read it. -/
def readBottom (settings : Settings) (world : World) (directory : Bytes) :
    Except Failure Config :=
  match settings.chosenFile? world directory with
  | none => .ok Config.default
  | some path => Config.readFile world path

/-- Loading is one chain of steps, in which the choice of the file comes first. -/
theorem loadConfig_eq (settings : Settings) (world : World) (directory : Bytes) :
    settings.loadConfig world directory = (do
      let bottom ← settings.readBottom world directory
      let below ← (bottom.withVariables world.environment.text?).validated
      (settings.applyTo below).validated) := by
  rw [loadConfig, readBottom, chosenFile?]
  cases settings.configFile with
  | some path => simp only [Config.loadFile, bind_assoc]
  | none =>
    by_cases h : world.pathExists (Config.filePath directory) = true
    · simp only [Config.load, h, if_true, bind_assoc]
    · simp only [Config.load, h, if_false, bind_assoc, Bool.false_eq_true]
      rfl

/-- The bottom can be read exactly when there is such a layer. -/
theorem readBottom_eq_ok_iff {settings : Settings} {world : World} {directory : Bytes}
    {config : Config} :
    settings.readBottom world directory = .ok config ↔ settings.Bottom world directory config := by
  rw [readBottom]
  constructor
  · intro h
    cases hchosen : settings.chosenFile? world directory with
    | none =>
      simp only [hchosen] at h
      cases h
      exact .defaults hchosen
    | some path =>
      simp only [hchosen] at h
      obtain ⟨source, htext, hparse⟩ := Config.readFile_eq_ok_iff.1 h
      exact .file hchosen htext hparse
  · intro h
    cases h with
    | defaults hchosen => rw [hchosen]
    | file hchosen htext hparse =>
      rw [hchosen]
      exact Config.readFile_eq_ok_iff.2 ⟨_, htext, hparse⟩

/-- Reading the bottom fails in the operating system exactly when reading the chosen file
does. -/
theorem readBottom_eq_io_iff {settings : Settings} {world : World} {directory : Bytes}
    {cause : SystemError} :
    settings.readBottom world directory = .error (.io cause) ↔
      ∃ path, settings.chosenFile? world directory = some path ∧
        world.readText path = .error cause := by
  rw [readBottom]
  cases settings.chosenFile? world directory with
  | none => simp
  | some path => simp [Config.readFile_eq_io_iff]

/-- A configuration is loaded exactly when all layers are there and are valid. -/
theorem loadConfig_eq_ok_iff {settings : Settings} {world : World} {directory : Bytes}
    {config : Config} :
    settings.loadConfig world directory = .ok config ↔
      ∃ bottom below, settings.Bottom world directory bottom ∧
        world.environment.layer.Over bottom below ∧ below.Valid ∧
        settings.layer.Over below config ∧ config.Valid := by
  simp only [loadConfig_eq, bind_eq_ok_iff, readBottom_eq_ok_iff, Config.validated_eq_ok_iff,
    Environment.layer_over_iff, layer_over_iff]
  constructor
  · rintro ⟨bottom, hbottom, below, ⟨hbelow, rfl⟩, hvalid, rfl⟩
    exact ⟨bottom, _, hbottom, rfl, hbelow, rfl, hvalid⟩
  · rintro ⟨bottom, below, hbottom, rfl, hbelow, rfl, hvalid⟩
    exact ⟨bottom, hbottom, _, ⟨hbelow, rfl⟩, hvalid, rfl⟩

/-- Loading fails in the operating system exactly when reading the chosen file does. -/
theorem loadConfig_eq_io_iff {settings : Settings} {world : World} {directory : Bytes}
    {cause : SystemError} :
    settings.loadConfig world directory = .error (.io cause) ↔
      ∃ path, settings.chosenFile? world directory = some path ∧
        world.readText path = .error cause := by
  rw [loadConfig_eq, bind_eq_error_iff, ← readBottom_eq_io_iff]
  constructor
  · rintro (h | ⟨bottom, -, h⟩)
    · exact h
    · rcases bind_eq_error_iff.1 h with h | ⟨below, -, h⟩
      · exact (Config.validated_ne_io _ _ h).elim
      · exact (Config.validated_ne_io _ _ h).elim
  · exact .inl

/-- No other failure comes out of loading. -/
theorem isLoading_of_loadConfig {settings : Settings} {world : World} {directory : Bytes}
    {failure : Failure} (h : settings.loadConfig world directory = .error failure) :
    failure.IsLoading := by
  have invalid {config : Config} (h : config.validated = .error failure) : failure.IsLoading := by
    obtain ⟨problem, -, hfailure⟩ := Config.validated_eq_error_iff.1 h
    exact .inr ⟨_, hfailure⟩
  rw [loadConfig_eq] at h
  rcases bind_eq_error_iff.1 h with h | ⟨bottom, -, h⟩
  · rw [readBottom] at h
    cases hchosen : settings.chosenFile? world directory with
    | none => simp [hchosen] at h
    | some path =>
      rw [hchosen] at h
      exact Config.isLoading_of_readFile h
  · rcases bind_eq_error_iff.1 h with h | ⟨below, -, h⟩
    · exact invalid h
    · exact invalid h

/-- A named file makes the directory irrelevant. -/
theorem loadConfig_congr_directory {settings : Settings} (h : settings.configFile.isSome)
    (world : World) (directory other : Bytes) :
    settings.loadConfig world directory = settings.loadConfig world other := by
  obtain ⟨path, hpath⟩ := Option.isSome_iff_exists.1 h
  simp only [loadConfig, hpath]

/-- Configurations are put together from their layers: loading gives a configuration exactly
when the file at the bottom describes one, the environment over it is valid, and the flags
over both are valid again. It fails in the operating system exactly when the chosen file
cannot be read as text, and every other failure is an invalid configuration. The directory
does not matter when a flag names the file. -/
theorem loadConfig_by_layers (settings : Settings) (world : World) (directory : Bytes) :
    (∀ config, settings.loadConfig world directory = .ok config ↔
      ∃ bottom below, settings.Bottom world directory bottom ∧
        world.environment.layer.Over bottom below ∧ below.Valid ∧
        settings.layer.Over below config ∧ config.Valid) ∧
    (∀ cause, settings.loadConfig world directory = .error (.io cause) ↔
      ∃ path, settings.chosenFile? world directory = some path ∧
        world.readText path = .error cause) ∧
    (∀ failure, settings.loadConfig world directory = .error failure →
      (∃ cause, failure = .io cause) ∨ ∃ message, failure = .invalidConfig message) ∧
    (settings.configFile.isSome → ∀ other,
      settings.loadConfig world directory = settings.loadConfig world other) := by
  refine ⟨fun config => loadConfig_eq_ok_iff, fun cause => loadConfig_eq_io_iff, ?_, ?_⟩
  · intro failure h
    exact isLoading_of_loadConfig h
  · intro h other
    exact loadConfig_congr_directory h world directory other

end Settings

end EmacsBatch
