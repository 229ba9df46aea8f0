import EmacsBatch.Bytes.Utf8.RoundTrip
import EmacsBatch.Proofs.Fields
import EmacsBatch.Proofs.Masking
import EmacsBatch.Proofs.Results

/-!
# The shapes of configurations as JSON

Which JSON values stand for a configuration, and for which one. Each setting has values that
stand for it, said here without the functions that read them. An object stands for a
configuration if the members that have the names of settings do so, whatever else it holds; an
array is read as an object whose members are in the order of the settings. Nothing is asked of
the settings but their shape, so a configuration that is not valid is read as well.

A configuration is written if all its paths are text, and what is written is read back.
-/

namespace EmacsBatch

namespace Config

/-- A JSON value stands for a value of a setting. -/
def Field.StandsFor (value : Json) : (field : Field) → field.Value → Prop
  | .emacs, text => value = .string text
  | .library, path? => value = .null ∧ path? = none ∨
      ∃ text, value = .string text ∧ path? = some (Utf8.encode text)
  | .loadPath, paths =>
      ∃ texts : List String, value = .array (texts.map .string) ∧ paths = texts.map Utf8.encode
  | .logLevel, text => value = .string text

/-- The values that stand for something are those of the shape that the setting has. -/
theorem Field.fits_iff (field : Field) (value : Json) :
    field.Fits value ↔ ∃ setting, field.StandsFor value setting := by
  cases field with
  | emacs => rfl
  | library =>
    constructor
    · rintro (h | ⟨text, h⟩)
      · exact ⟨none, .inl ⟨h, rfl⟩⟩
      · exact ⟨some (Utf8.encode text), .inr ⟨text, h, rfl⟩⟩
    · rintro ⟨-, ⟨h, -⟩ | ⟨text, h, -⟩⟩
      · exact .inl h
      · exact .inr ⟨text, h⟩
  | loadPath =>
    constructor
    · rintro ⟨texts, h⟩
      exact ⟨_, texts, h, rfl⟩
    · rintro ⟨-, texts, h, -⟩
      exact ⟨texts, h⟩
  | logLevel => rfl

/-- Only a string is read as a text. -/
theorem readString_eq_ok_iff {value : Json} {text : String} :
    readString value = .ok text ↔ value = .string text := by
  cases value <;> simp [readString]

/-- Only a string is read as a path. -/
theorem readPath_eq_ok_iff {value : Json} {path : Bytes} :
    readPath value = .ok path ↔ ∃ text, value = .string text ∧ path = Utf8.encode text := by
  cases value <;> simp [readPath, eq_comm]

/-- Only strings are read as the elements of a list of paths. -/
theorem readElements_eq_ok_iff {position : Nat} {elements : List Json} {paths : List Bytes} :
    readElements position elements = .ok paths ↔
      ∃ texts : List String, elements = texts.map .string ∧ paths = texts.map Utf8.encode := by
  constructor
  · intro h
    induction elements generalizing position paths with
    | nil =>
      cases h
      exact ⟨[], rfl, rfl⟩
    | cons value rest ih =>
      rw [readElements] at h
      cases hpath : readPath value with
      | error mismatch => simp [hpath] at h
      | ok path =>
        simp only [hpath] at h
        obtain ⟨others, hrest, rfl⟩ := map_eq_ok_iff.1 h
        obtain ⟨text, rfl, rfl⟩ := readPath_eq_ok_iff.1 hpath
        obtain ⟨texts, rfl, rfl⟩ := ih hrest
        exact ⟨text :: texts, rfl, rfl⟩
  · rintro ⟨texts, rfl, rfl⟩
    exact readElements_strings position texts

/-- A setting is read from a value that stands for it, and replaces the one that was there. -/
theorem Field.read_eq_ok_iff {field : Field} {value : Json} {config next : Config} :
    field.read config value = .ok next ↔
      ∃ setting, field.StandsFor value setting ∧ next = config.set field setting := by
  cases field with
  | emacs =>
    rw [read, map_eq_ok_iff]
    simp only [readString_eq_ok_iff, @eq_comm _ _ next]
    rfl
  | library =>
    have hread (path? : Option Bytes) :
        readPath? value = .ok path? ↔ Field.library.StandsFor value path? := by
      cases value <;>
        simp [readPath?, map_eq_ok_iff, readPath_eq_ok_iff, StandsFor, @eq_comm _ _ path?]
    rw [read, map_eq_ok_iff]
    simp only [hread, @eq_comm _ _ next]
    rfl
  | loadPath =>
    have hread (paths : List Bytes) :
        readPaths value = .ok paths ↔ Field.loadPath.StandsFor value paths := by
      cases value <;> simp [readPaths, readElements_eq_ok_iff, StandsFor]
    rw [read, map_eq_ok_iff]
    simp only [hread, @eq_comm _ _ next]
    rfl
  | logLevel =>
    rw [read, map_eq_ok_iff]
    simp only [readString_eq_ok_iff, @eq_comm _ _ next]
    rfl

/-- One value is read first, and the others over the configuration that it makes. -/
theorem readFields_cons_eq_ok_iff {field : Field} {value : Json} {rest : List (Field × Json)}
    {start config : Config} :
    readFields start ((field, value) :: rest) = .ok config ↔
      ∃ setting, field.StandsFor value setting ∧
        readFields (start.set field setting) rest = .ok config := by
  rw [readFields]
  constructor
  · intro h
    cases hread : field.read start value with
    | error mismatch => simp [hread] at h
    | ok next =>
      simp only [hread] at h
      obtain ⟨setting, hstands, rfl⟩ := Field.read_eq_ok_iff.1 hread
      exact ⟨setting, hstands, h⟩
  · rintro ⟨setting, hstands, h⟩
    rwa [Field.read_eq_ok_iff.2 ⟨setting, hstands, rfl⟩]

/-- Values of different settings are read exactly if each stands for its setting in the
configuration that comes out, and all other settings stay as they are. -/
theorem readFields_eq_ok_iff {entries : List (Field × Json)}
    (distinct : (entries.map Prod.fst).Nodup) {start config : Config} :
    readFields start entries = .ok config ↔
      (∀ entry ∈ entries, entry.1.StandsFor entry.2 (config.get entry.1)) ∧
        ∀ field ∉ entries.map Prod.fst, config.get field = start.get field := by
  induction entries generalizing start with
  | nil =>
    rw [readFields, Except.ok.injEq]
    constructor
    · rintro rfl
      exact ⟨fun entry h => (List.not_mem_nil h).elim, fun field _ => rfl⟩
    · rintro ⟨-, h⟩
      exact (eq_of_get_eq fun field => h field List.not_mem_nil).symm
  | cons entry rest ih =>
    -- The rest starts from the configuration with this setting, and no other value replaces it.
    obtain ⟨field, value⟩ := entry
    obtain ⟨hfield, hrest⟩ := List.nodup_cons.1 distinct
    rw [readFields_cons_eq_ok_iff, List.forall_mem_cons]
    simp only [ih hrest, List.map_cons, List.mem_cons, not_or]
    constructor
    · rintro ⟨setting, hstands, hothers, hkept⟩
      have hget : config.get field = setting := by rw [hkept field hfield, get_set_self]
      refine ⟨⟨by rwa [hget], hothers⟩, ?_⟩
      rintro other ⟨hne, hother⟩
      rw [hkept other hother, get_set_of_ne start setting hne]
    · rintro ⟨⟨hstands, hothers⟩, hkept⟩
      refine ⟨config.get field, hstands, hothers, ?_⟩
      intro other hother
      by_cases hne : other = field
      · subst hne
        exact (get_set_self start other (config.get other)).symm
      · rw [get_set_of_ne start _ hne, hkept other ⟨hne, hother⟩]

/-- The settings that have a member in an object, with the values of these members. -/
def fieldsOf (members : List (String × Json)) : List (Field × Json) :=
  Field.all.filterMap fun field => ((Json.object members).member? field.name).map (field, ·)

/-- A setting is found with the value of the member that has its name. -/
theorem mem_fieldsOf_iff {members : List (String × Json)} {field : Field} {value : Json} :
    (field, value) ∈ fieldsOf members ↔
      (Json.object members).member? field.name = some value := by
  have hall : field ∈ Field.all := by cases field <;> decide
  simp only [fieldsOf, List.mem_filterMap, Option.map_eq_some_iff]
  constructor
  · rintro ⟨other, -, found, h, heq⟩
    cases heq
    exact h
  · intro h
    exact ⟨field, hall, value, h, rfl⟩

/-- Each setting is found at most once. -/
theorem nodup_fieldsOf (members : List (String × Json)) :
    ((fieldsOf members).map Prod.fst).Nodup := by
  rw [fieldsOf, List.map_filterMap]
  refine List.Nodup.filterMap ?_ (by decide)
  intro field other found h h'
  simp only [Option.map_map, Option.mem_def, Option.map_eq_some_iff] at h h'
  obtain ⟨_, -, hfield⟩ := h
  obtain ⟨_, -, hother⟩ := h'
  exact hfield.trans hother.symm

/-- A setting as the members of an object give it: what the member of its name stands for, and
the default if there is none. -/
def Field.ReadFrom (members : List (String × Json)) (field : Field) (setting : field.Value) :
    Prop :=
  match (Json.object members).member? field.name with
  | some value => field.StandsFor value setting
  | none => setting = default.get field

/-- An object stands for the configuration whose settings are read from its members. -/
theorem ofJson_object_eq_ok_iff {members : List (String × Json)} {config : Config} :
    ofJson (.object members) = .ok config ↔
      ∀ field : Field, field.ReadFrom members (config.get field) := by
  have hread : ofJson (.object members) = .ok config ↔
      readFields default (fieldsOf members) = .ok config := mapError_eq_ok_iff
  have habsent (field : Field) : field ∉ (fieldsOf members).map Prod.fst ↔
      (Json.object members).member? field.name = none := by
    simp [Option.eq_none_iff_forall_ne_some, mem_fieldsOf_iff]
  rw [hread, readFields_eq_ok_iff (nodup_fieldsOf members)]
  simp only [habsent]
  constructor
  · rintro ⟨hpresent, hkept⟩ field
    rw [Field.ReadFrom]
    cases hmember : (Json.object members).member? field.name with
    | none => exact hkept field hmember
    | some value => exact hpresent (field, value) (mem_fieldsOf_iff.2 hmember)
  · intro h
    constructor
    · rintro ⟨field, value⟩ hentry
      have hfield := h field
      rwa [Field.ReadFrom, mem_fieldsOf_iff.1 hentry] at hfield
    · intro field hmember
      have hfield := h field
      rwa [Field.ReadFrom, hmember] at hfield

/-- An object stands for a configuration exactly if its members have the shapes of the settings
whose names they have. -/
theorem exists_ofJson_object_iff (members : List (String × Json)) :
    (∃ config, ofJson (.object members) = .ok config) ↔
      ∀ (field : Field) (value : Json),
        (Json.object members).member? field.name = some value → field.Fits value := by
  simp only [ofJson_object_eq_ok_iff]
  constructor
  · rintro ⟨config, h⟩ field value hmember
    have hfield := h field
    rw [Field.ReadFrom, hmember] at hfield
    exact (field.fits_iff value).2 ⟨_, hfield⟩
  · intro h
    have hsetting (field : Field) : ∃ setting, field.ReadFrom members setting := by
      simp only [Field.ReadFrom]
      cases hmember : (Json.object members).member? field.name with
      | none => exact ⟨_, rfl⟩
      | some value => exact (field.fits_iff value).1 (h field value hmember)
    choose setting hread using hsetting
    refine ⟨⟨setting .emacs, setting .library, setting .loadPath, setting .logLevel⟩, ?_⟩
    intro field
    cases field with
    | emacs => exact hread .emacs
    | library => exact hread .library
    | loadPath => exact hread .loadPath
    | logLevel => exact hread .logLevel

/-- The elements of an array that is not too long are the members of the settings in order. -/
theorem fieldsOf_zip {elements : List Json} (h : elements.length ≤ 4) :
    fieldsOf ((Field.all.map Field.name).zip elements) = Field.all.zip elements := by
  match elements, h with
  | [], _ => rfl
  | [_], _ => rfl
  | [_, _], _ => rfl
  | [_, _, _], _ => rfl
  | [_, _, _, _], _ => rfl

/-- An array is read like the object with the names of the settings for its elements. -/
theorem ofJson_array_eq_ok_iff {elements : List Json} {config : Config} :
    ofJson (.array elements) = .ok config ↔ elements.length ≤ 4 ∧
      ofJson (.object ((Field.all.map Field.name).zip elements)) = .ok config := by
  have hobject : ofJson (.object ((Field.all.map Field.name).zip elements)) = .ok config ↔
      readFields default (fieldsOf ((Field.all.map Field.name).zip elements)) = .ok config :=
    mapError_eq_ok_iff
  rw [hobject, ofJson]
  by_cases hlength : elements.length ≤ 4
  · rw [fieldsOf_zip hlength]
    cases hread : readFields default (Field.all.zip elements) with
    | error refused => simp
    | ok read => simp [Field.all, hlength]
  · cases hread : readFields default (Field.all.zip elements) with
    | error refused => simp [hlength]
    | ok read => simp [Field.all, hlength]

/-- A path is written as the string that it encodes. -/
theorem pathJson?_eq_some_iff {path : Bytes} {value : Json} :
    pathJson? path = some value ↔ ∃ text, value = .string text ∧ path = Utf8.encode text := by
  simp only [pathJson?, Option.map_eq_some_iff, Utf8.decode?_eq_some_iff, @eq_comm _ _ value,
    and_comm]

/-- Paths are written as the strings that they encode. -/
theorem mapM_pathJson?_eq_some_iff {paths : List Bytes} {values : List Json} :
    paths.mapM pathJson? = some values ↔
      ∃ texts : List String, values = texts.map .string ∧ paths = texts.map Utf8.encode := by
  induction paths generalizing values with
  | nil =>
    have hnil : ∀ texts : List String, [] = texts.map Utf8.encode ↔ texts = [] := by simp
    simp [hnil, eq_comm]
  | cons path paths ih =>
    simp only [List.mapM_cons, Option.bind_eq_bind, Option.pure_def, Option.bind_eq_some_iff,
      Option.some.injEq, pathJson?_eq_some_iff, ih]
    constructor
    · rintro ⟨-, ⟨text, rfl, rfl⟩, -, ⟨texts, rfl, rfl⟩, rfl⟩
      exact ⟨text :: texts, rfl, rfl⟩
    · rintro ⟨texts, rfl, hpaths⟩
      obtain ⟨text, texts, rfl, rfl, rfl⟩ := List.map_eq_cons_iff.1 hpaths.symm
      exact ⟨_, ⟨text, rfl, rfl⟩, _, ⟨texts, rfl, rfl⟩, rfl⟩

/-- The values of the members that a configuration is written with, those of paths given. -/
def memberValues (config : Config) (library : Json) (loadPath : List Json) : Field → Json
  | .emacs => .string config.emacs
  | .library => library
  | .loadPath => .array loadPath
  | .logLevel => .string config.logLevel

/-- A configuration is written as an object with a member for each setting, whose value stands
for it. -/
theorem toJson?_eq_some_iff {config : Config} {value : Json} :
    toJson? config = some value ↔ ∃ values : Field → Json,
      (∀ field : Field, field.StandsFor (values field) (config.get field)) ∧
        value = .object (Field.all.map fun field => (field.name, values field)) := by
  -- The writer asks first whether there is a library, hence a case for each answer.
  have hwritten : toJson? config = some value ↔
      ∃ library, Field.library.StandsFor library config.library ∧
        ∃ elements, Field.loadPath.StandsFor (.array elements) config.loadPath ∧
          value = .object [("emacs", .string config.emacs), ("library", library),
            ("load_path", .array elements), ("log_level", .string config.logLevel)] := by
    rw [toJson?]
    cases config.library with
    | none =>
      simp [Field.StandsFor, Field.name, mapM_pathJson?_eq_some_iff, Option.bind_eq_some_iff,
        @eq_comm _ _ value]
    | some path =>
      simp [Field.StandsFor, Field.name, pathJson?_eq_some_iff, mapM_pathJson?_eq_some_iff,
        Option.bind_eq_some_iff, @eq_comm _ _ value]
  rw [hwritten]
  constructor
  · rintro ⟨library, hlibrary, elements, helements, rfl⟩
    refine ⟨config.memberValues library elements, ?_, rfl⟩
    intro field
    cases field with
    | emacs => rfl
    | library => exact hlibrary
    | loadPath => exact helements
    | logLevel => rfl
  · rintro ⟨values, hstands, rfl⟩
    have hemacs : values .emacs = .string config.emacs := hstands .emacs
    have hlogLevel : values .logLevel = .string config.logLevel := hstands .logLevel
    obtain ⟨texts, hloadPath, hpaths⟩ := hstands .loadPath
    refine ⟨_, hstands .library, _, ⟨texts, rfl, hpaths⟩, ?_⟩
    simp [Field.all, Field.name, hemacs, hlogLevel, hloadPath]

/-- A value stands for a library exactly if its path is text, and one always does for none. -/
theorem Field.exists_standsFor_library_iff (path? : Option Bytes) :
    (∃ value, Field.library.StandsFor value path?) ↔
      ∀ path, path? = some path → Utf8.isValid path = true := by
  cases path? with
  | none => simp [StandsFor]
  | some path => simp [StandsFor, Utf8.isValid_iff_exists_encode]

/-- A value stands for a load path exactly if all paths in it are text. -/
theorem Field.exists_standsFor_loadPath_iff (paths : List Bytes) :
    (∃ value, Field.loadPath.StandsFor value paths) ↔
      ∀ path ∈ paths, Utf8.isValid path = true := by
  have htexts : (∃ texts : List String, texts.map Utf8.encode = paths) ↔
      ∀ path ∈ paths, ∃ text, Utf8.encode text = path :=
    Set.ext_iff.1 (Set.range_list_map Utf8.encode) paths
  simp only [StandsFor, Utf8.isValid_iff_exists_encode, @eq_comm _ _ (Utf8.encode _), ← htexts]
  constructor
  · rintro ⟨-, texts, -, h⟩
    exact ⟨texts, h.symm⟩
  · rintro ⟨texts, h⟩
    exact ⟨_, texts, rfl, h.symm⟩

/-- A configuration is written exactly if all its paths are text. -/
theorem exists_toJson?_iff (config : Config) :
    (∃ value, toJson? config = some value) ↔
      (∀ path, config.library = some path → Utf8.isValid path = true) ∧
        ∀ path ∈ config.loadPath, Utf8.isValid path = true := by
  rw [← Field.exists_standsFor_library_iff, ← Field.exists_standsFor_loadPath_iff]
  simp only [toJson?_eq_some_iff]
  constructor
  · rintro ⟨-, values, hstands, -⟩
    exact ⟨⟨_, hstands .library⟩, ⟨_, hstands .loadPath⟩⟩
  · rintro ⟨⟨library, hlibrary⟩, ⟨loadPath, hloadPath⟩⟩
    have hstands (field : Field) : ∃ value, field.StandsFor value (config.get field) := by
      cases field with
      | emacs => exact ⟨_, rfl⟩
      | library => exact ⟨library, hlibrary⟩
      | loadPath => exact ⟨loadPath, hloadPath⟩
      | logLevel => exact ⟨_, rfl⟩
    choose values hvalues using hstands
    exact ⟨_, values, hvalues, rfl⟩

/-- What is written of a configuration is read back. -/
theorem ofJson_of_toJson? {config : Config} {value : Json} (h : toJson? config = some value) :
    ofJson value = .ok config := by
  obtain ⟨values, hstands, rfl⟩ := toJson?_eq_some_iff.1 h
  rw [ofJson_object_eq_ok_iff]
  intro field
  have hmember : (Json.object (Field.all.map fun field => (field.name, values field))).member?
      field.name = some (values field) := by
    cases field <;> rfl
  rw [Field.ReadFrom, hmember]
  exact hstands field

/-- Configurations and JSON.

A configuration is written exactly if all its paths are text, and is then read back. An object
is read exactly if the members with the names of settings are of the shape of these settings;
each setting is then what its member stands for, or the default if it has none, and no other
member matters. An array is read exactly if it has at most four elements and the object that has
them for the members of the settings, in order, is read, and as the same configuration. -/
theorem json_written_and_read :
    (∀ config : Config,
      ((∃ value, config.toJson? = some value) ↔
        (∀ path, config.library = some path → Utf8.isValid path = true) ∧
          ∀ path ∈ config.loadPath, Utf8.isValid path = true) ∧
      ∀ value, config.toJson? = some value → ofJson value = .ok config) ∧
    (∀ members : List (String × Json),
      ((∃ config, ofJson (.object members) = .ok config) ↔
        ∀ (field : Field) (value : Json),
          (Json.object members).member? field.name = some value → field.Fits value) ∧
      ∀ config : Config, ofJson (.object members) = .ok config ↔
        ∀ field : Field, field.ReadFrom members (config.get field)) ∧
    ∀ (elements : List Json) (config : Config),
      ofJson (.array elements) = .ok config ↔ elements.length ≤ 4 ∧
        ofJson (.object (["emacs", "library", "load_path", "log_level"].zip elements)) =
          .ok config := by
  refine ⟨?written, ?object, ?array⟩
  case written =>
    intro config
    exact ⟨exists_toJson?_iff config, fun value => ofJson_of_toJson?⟩
  case object =>
    intro members
    exact ⟨exists_ofJson_object_iff members, fun config => ofJson_object_eq_ok_iff⟩
  case array =>
    intro elements config
    exact ofJson_array_eq_ok_iff

end Config

end EmacsBatch
