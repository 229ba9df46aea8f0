import EmacsBatch.Bytes.Utf8
import EmacsBatch.Config.Basic
import EmacsBatch.Json.Printer
import EmacsBatch.Text.Quoted

/-!
# Configurations as values

A configuration is written as a JSON object and read from named members, which a
configuration file also has, or from an array in the order of the settings. Reading checks
the shape of each value and nothing else; a member of another name is passed over, and a
setting without a member keeps its default.
-/

namespace EmacsBatch.Config

/-- A value of a shape that a setting cannot have.

For a wrong element of a list, `element` is its position. -/
structure Mismatch where
  found : Json
  expected : String
  element : Option Nat := none

/-- Why a value is no configuration. -/
inductive ShapeError where
  | wrongType (mismatch : Mismatch)
  /-- An array has more elements than there are settings. -/
  | tooLong (length : Nat)

/-- The words for a value in an error message, with numerals in the style of the format that
it was read from. -/
def describe (style : Decimal.NumeralStyle) : Json → String
  | .null => "null"
  | .boolean value => "boolean `" ++ (if value then "true" else "false") ++ "`"
  | .integer value => "integer `" ++ toString value ++ "`"
  | .float value => "floating point `" ++ value.text style ++ "`"
  | .string value => "string " ++ Text.quoted value
  | .array _ => "sequence"
  | .object _ => "map"

/-- The text of a mismatch in a value that was read from a format with its own style of
numerals. -/
def Mismatch.message (style : Decimal.NumeralStyle) (mismatch : Mismatch) : String :=
  "invalid type: " ++ describe style mismatch.found ++ ", expected " ++ mismatch.expected

/-- The text of a shape error in a JSON value. -/
def ShapeError.message : ShapeError → String
  | .wrongType mismatch => mismatch.message Json.numerals
  | .tooLong length =>
    "invalid length " ++ toString length ++ ", expected fewer elements in array"

/-- The text of a value. -/
def readString : Json → Except Mismatch String
  | .string s => .ok s
  | found => .error ⟨found, "a string", none⟩

/-- The path that a value names. -/
def readPath : Json → Except Mismatch Bytes
  | .string s => .ok (Utf8.encode s)
  | found => .error ⟨found, "path string", none⟩

/-- The path that a value names, if it is not null. -/
def readPath? : Json → Except Mismatch (Option Bytes)
  | .null => .ok none
  | value => (readPath value).map some

/-- The paths that the elements of a list name, the first of them at a position. -/
def readElements (position : Nat) : List Json → Except Mismatch (List Bytes)
  | [] => .ok []
  | value :: rest =>
    match readPath value with
    | .error mismatch => .error { mismatch with element := some position }
    | .ok path => (readElements (position + 1) rest).map (path :: ·)

/-- The paths that a list of values names. -/
def readPaths : Json → Except Mismatch (List Bytes)
  | .array elements => readElements 0 elements
  | found => .error ⟨found, "a sequence", none⟩

/-- One of the settings. -/
inductive Field where
  | emacs
  | library
  | loadPath
  | logLevel
  deriving DecidableEq

namespace Field

/-- The settings in order, which is also the order of their names. -/
def all : List Field := [emacs, library, loadPath, logLevel]

/-- The name of a setting. -/
def name : Field → String
  | emacs => "emacs"
  | library => "library"
  | loadPath => "load_path"
  | logLevel => "log_level"

/-- The setting of a name. -/
def ofName? (word : String) : Option Field := all.find? (·.name = word)

/-- The configuration after a setting was read from a value. -/
def read (field : Field) (config : Config) (value : Json) : Except Mismatch Config :=
  match field with
  | emacs => (readString value).map fun emacs => { config with emacs }
  | library => (readPath? value).map fun library => { config with library }
  | loadPath => (readPaths value).map fun loadPath => { config with loadPath }
  | logLevel => (readString value).map fun logLevel => { config with logLevel }

end Field

/-- Read settings from their values, one after the other; the first value of a wrong shape
is reported with its setting. -/
def readFields (config : Config) : List (Field × Json) → Except (Field × Mismatch) Config
  | [] => .ok config
  | (field, value) :: rest =>
    match field.read config value with
    | .error mismatch => .error (field, mismatch)
    | .ok config => readFields config rest

/-- The configuration that a JSON value stands for. -/
def ofJson (value : Json) : Except ShapeError Config :=
  match value with
  | .object _ =>
    let fields := Field.all.filterMap fun field => (value.member? field.name).map (field, ·)
    (readFields default fields).mapError fun (_, mismatch) => .wrongType mismatch
  | .array elements =>
    match readFields default (Field.all.zip elements) with
    | .error (_, mismatch) => .error (.wrongType mismatch)
    | .ok config =>
      if elements.length ≤ Field.all.length then .ok config else .error (.tooLong elements.length)
  | found => .error (.wrongType ⟨found, "struct Config", none⟩)

/-- A path as a JSON string, if it is text. -/
def pathJson? (path : Bytes) : Option Json := (Utf8.decode? path).map .string

/-- The JSON object of a configuration, if all its paths are text. -/
def toJson? (config : Config) : Option Json := do
  let library ← match config.library with
    | none => some Json.null
    | some path => pathJson? path
  let loadPath ← config.loadPath.mapM pathJson?
  return .object [
    (Field.emacs.name, .string config.emacs),
    (Field.library.name, library),
    (Field.loadPath.name, .array loadPath),
    (Field.logLevel.name, .string config.logLevel)]

/-- The text of the error when a path is no text. -/
def notTextMessage : String := "path contains invalid UTF-8 characters"

end EmacsBatch.Config
