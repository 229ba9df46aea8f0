import EmacsBatch.Bytes.Utf8.RoundTrip
import EmacsBatch.Config.Load

/-!
# The layers of a configuration

A configuration is put together from four layers: the defaults, a configuration file, the
environment, and the flags of a command line. Each layer replaces the settings that it gives
and leaves the others as they are in the layer below.

The layers are described here setting by setting, without the functions that lay them. A
configuration is loaded exactly when the file is there and describes one, and when the
layers are valid both without the flags and with them. Only reading the file can fail in the
operating system; every other failure is an invalid configuration.
-/

namespace EmacsBatch

/-- What a layer gives, said of each setting by the values that it may get. -/
structure Layer where
  emacs : String → Prop
  library : Bytes → Prop
  loadPath : List Bytes → Prop
  logLevel : String → Prop

/-- One setting in two neighbouring layers: the upper one gives it, or gives nothing and it
stays as it is below. -/
def Replaces {α : Type} (given : α → Prop) (below above : α) : Prop :=
  given above ∨ above = below ∧ ∀ value, ¬ given value

/-- A layer lies over one configuration and makes another one of it. -/
structure Layer.Over (layer : Layer) (below above : Config) : Prop where
  emacs : Replaces layer.emacs below.emacs above.emacs
  library : Replaces (fun library => ∃ path, library = some path ∧ layer.library path)
    below.library above.library
  loadPath : Replaces layer.loadPath below.loadPath above.loadPath
  logLevel : Replaces layer.logLevel below.logLevel above.logLevel

/-- A text that a variable supplies: the variable is set to it in UTF-8, and it is not
empty. -/
def Environment.Supplies (environment : Environment) (name text : String) : Prop :=
  environment.value? name = some (Utf8.encode text) ∧ text ≠ ""

/-- What the environment gives: directories are separated by colons, without empty ones, and
the word for the log level may be in any case. -/
def Environment.layer (environment : Environment) : Layer where
  emacs := environment.Supplies emacsVariable
  library path := ∃ text, environment.Supplies libraryVariable text ∧ path = Utf8.encode text
  loadPath paths := ∃ text, environment.Supplies loadPathVariable text ∧
    paths = (Bytes.splitOn pathSeparator (Utf8.encode text)).filter (· ≠ [])
  logLevel level := ∃ text, environment.Supplies logVariable text ∧ level = Text.lowercase text

/-- What the flags give: directories replace the load path as a whole, if there are any. -/
def Settings.layer (settings : Settings) : Layer where
  emacs emacs := settings.emacs = some emacs
  library path := settings.library = some path
  loadPath paths := settings.loadPath ≠ [] ∧ paths = settings.loadPath
  logLevel level := settings.verbose = true ∧ level = "debug"

/-- A setting that is given by an optional value is replaced by that value, if there is one. -/
theorem replaces_iff {α : Type} {given : α → Prop} {value? : Option α}
    (h : ∀ value, given value ↔ value? = some value) (below above : α) :
    Replaces given below above ↔ above = value?.getD below := by
  simp only [Replaces, h]
  cases value? with
  | none => simp
  | some value => simp [eq_comm]

/-- A layer whose settings are optional values makes one configuration of each. -/
theorem Layer.over_iff {layer : Layer} {overlay : Config.Overlay}
    (hemacs : ∀ emacs, layer.emacs emacs ↔ overlay.emacs = some emacs)
    (hlibrary : ∀ path, layer.library path ↔ overlay.library = some path)
    (hloadPath : ∀ paths, layer.loadPath paths ↔ overlay.loadPath = some paths)
    (hlogLevel : ∀ level, layer.logLevel level ↔ overlay.logLevel = some level)
    (below above : Config) : layer.Over below above ↔ above = below.overlay overlay := by
  have hlibrary' : ∀ library, (∃ path, library = some path ∧ layer.library path) ↔
      overlay.library.map some = some library := by
    intro library
    simp only [hlibrary, Option.map_eq_some_iff, eq_comm, and_comm]
  have hgetD : (overlay.library.map some).getD below.library =
      (overlay.library <|> below.library) := by
    cases overlay.library <;> rfl
  have emacs := replaces_iff hemacs below.emacs above.emacs
  have library := replaces_iff hlibrary' below.library above.library
  have loadPath := replaces_iff hloadPath below.loadPath above.loadPath
  have logLevel := replaces_iff hlogLevel below.logLevel above.logLevel
  rw [hgetD] at library
  obtain ⟨emacs', library', loadPath', logLevel'⟩ := above
  rw [Config.overlay, Config.mk.injEq]
  constructor
  · intro h
    exact ⟨emacs.1 h.emacs, library.1 h.library, loadPath.1 h.loadPath, logLevel.1 h.logLevel⟩
  · rintro ⟨he, hl, hp, hg⟩
    exact ⟨emacs.2 he, library.2 hl, loadPath.2 hp, logLevel.2 hg⟩

/-- A variable supplies at most one text, the one that counts as given. -/
theorem Environment.supplies_iff (environment : Environment) (name text : String) :
    environment.Supplies name text ↔ Config.given? (environment.text? name) = some text := by
  rw [Config.given?, Option.filter_eq_some_iff, Environment.text?, Option.bind_eq_some_iff]
  constructor
  · rintro ⟨hvalue, hne⟩
    exact ⟨⟨_, hvalue, Utf8.decode?_eq_some_iff.2 rfl⟩, by simpa using hne⟩
  · rintro ⟨⟨bytes, hvalue, hdecode⟩, hne⟩
    rw [Utf8.decode?_eq_some_iff.1 hdecode] at hvalue
    exact ⟨hvalue, by simpa using hne⟩

/-- A value that is read off the text of a variable is there exactly when the text is. -/
theorem Environment.exists_supplies_iff {α : Type} (environment : Environment) (name : String)
    (read : String → α) (value : α) :
    (∃ text, environment.Supplies name text ∧ value = read text) ↔
      (Config.given? (environment.text? name)).map read = some value := by
  simp only [environment.supplies_iff, Option.map_eq_some_iff, @eq_comm _ value]

/-- Laying the environment over a configuration is putting its settings on top. -/
theorem Environment.layer_over_iff (environment : Environment) (below above : Config) :
    environment.layer.Over below above ↔ above = below.withVariables environment.text? := by
  apply Layer.over_iff
  · exact environment.supplies_iff emacsVariable
  · exact environment.exists_supplies_iff libraryVariable Utf8.encode
  · exact environment.exists_supplies_iff loadPathVariable
      fun text => listedPaths (Utf8.encode text)
  · exact environment.exists_supplies_iff logVariable Text.lowercase

/-- Laying the flags over a configuration is putting their settings on top. -/
theorem Settings.layer_over_iff (settings : Settings) (below above : Config) :
    settings.layer.Over below above ↔ above = settings.applyTo below := by
  apply Layer.over_iff
  · intro emacs
    rfl
  · intro path
    rfl
  · intro paths
    by_cases h : settings.loadPath = [] <;> simp [layer, overlay, h, @eq_comm _ paths]
  · intro level
    by_cases h : settings.verbose = true <;>
      simp [layer, overlay, h, Log.Level.name, @eq_comm _ level]

end EmacsBatch
