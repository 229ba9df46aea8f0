import EmacsBatch.Config.Json
import EmacsBatch.Execution
import EmacsBatch.Json.Printer

/-!
# The doctor

The doctor reports which interpreter and which helper library the hooks would use, without
running a hook. The interpreter is asked for its version; neither its exit status nor what
it writes to its standard error matters for that.
-/

namespace EmacsBatch.Doctor

/-- What the doctor found out. -/
structure Report where
  emacs : String
  emacsPath : Option Bytes
  emacsVersion : Option String
  library : Option Bytes
  libraryError : Option String
  loadPath : List Bytes
  deriving DecidableEq

/-- Whether hooks can run. -/
def Report.healthy (report : Report) : Bool := report.emacsPath.isSome && report.library.isSome

/-- Whether a byte ends a line, or comes before one that does. -/
def isLineEnd (byte : UInt8) : Bool := byte = 0x0A || byte = 0x0D

/-- The first line of what is left of an output without the line ends after its last line,
if anything is left. -/
def firstLine? (output : Bytes) : Option Bytes :=
  match Bytes.trimEnd isLineEnd output with
  | [] => none
  | text =>
    let line := text.takeWhile (· ≠ 0x0A)
    some (if line.length < text.length ∧ line.getLast? = some 0x0D then line.dropLast else line)

/-- The version that an interpreter's output names; output that is not text names none. -/
def version? (output : Bytes) : Option String :=
  if Utf8.isValid output then (firstLine? output).bind Utf8.decode? else none

/-- Ask an interpreter for its version. -/
def askVersion (world : World) (path : Bytes) : Traced (Option String) :=
  match Launch.start world path [Utf8.encode "--version"] [] with
  | .error _ => return none
  | .ok child => do
    Traced.emit (.capturedChild child)
    return version? child.program.stdout

/-- Find out what the hooks would use under a configuration. -/
def inspect (config : Config) (locator : LibraryLocator) (world : World) : Traced Report := do
  let path := (Lookup.locate world (Utf8.encode config.emacs)).toOption
  let version ← match path with
    | some path => askVersion world path
    | none => pure none
  let found ← locator.resolve world
  return {
    emacs := config.emacs
    emacsPath := path
    emacsVersion := version
    library := found.toOption
    libraryError := match found with
      | .ok _ => none
      | .error failure => some failure.message
    loadPath := config.loadPath }

/-- A path as a JSON value, if it is text or not there at all. -/
def pathJson? : Option Bytes → Option Json
  | none => some .null
  | some path => Config.pathJson? path

/-- A text as a JSON value. -/
def textJson : Option String → Json
  | none => .null
  | some text => .string text

/-- The report as a JSON value, if all its paths are text. -/
def Report.toJson? (report : Report) : Option Json := do
  let emacsPath ← Doctor.pathJson? report.emacsPath
  let library ← Doctor.pathJson? report.library
  let loadPath ← report.loadPath.mapM Config.pathJson?
  return .object [
    ("emacs", .string report.emacs),
    ("emacs_path", emacsPath),
    ("emacs_version", textJson report.emacsVersion),
    ("library", library),
    ("library_error", textJson report.libraryError),
    ("load_path", .array loadPath)]

/-- The line about the interpreter. -/
def Report.emacsLine (report : Report) : String :=
  match report.emacsPath with
  | some path => "Emacs:    " ++ report.emacs ++ " (" ++ Utf8.lossy path ++ ")\n"
  | none => "Emacs:    " ++ report.emacs ++ " (not found on PATH)\n"

/-- The line about the version, if it is known. -/
def Report.versionLine (report : Report) : String :=
  match report.emacsVersion with
  | some version => "Version:  " ++ version ++ "\n"
  | none => ""

/-- The line about the helper library. -/
def Report.libraryLine (report : Report) : String :=
  match report.library, report.libraryError with
  | some path, _ => "Library:  " ++ Utf8.lossy path ++ "\n"
  | none, some message => "Library:  " ++ message ++ "\n"
  | none, none => "Library:  unresolved\n"

/-- The lines about the load path. -/
def Report.loadPathLines (report : Report) : String :=
  if report.loadPath = [] then "Load path: (none)\n"
  else "Load path:\n"
    ++ String.join (report.loadPath.map fun path => "  " ++ Utf8.lossy path ++ "\n")

/-- The report as text. -/
def Report.text (report : Report) : String :=
  report.emacsLine ++ report.versionLine ++ report.libraryLine ++ report.loadPathLines

/-- Why the doctor does not succeed. -/
inductive Complaint where
  /-- The working directory cannot be read. -/
  | noDirectory (cause : SystemError)
  /-- The configuration cannot be loaded. -/
  | noConfig (failure : Failure)
  /-- The report has a path that JSON cannot hold. -/
  | notText
  /-- The report shows a problem. -/
  | unhealthy
  deriving DecidableEq

/-- The text of a complaint, with the causes behind it. -/
def Complaint.message : Complaint → String
  | .noDirectory cause => cause.message
  | .noConfig failure =>
    match failure.source? with
    | some cause => failure.message ++ ": " ++ cause.message
    | none => failure.message
  | .notText => Config.notTextMessage
  | .unhealthy => "Hooks cannot run until the problems above are fixed."

/-- The report in the wanted form, if it has one. -/
def Report.written? (report : Report) (json : Bool) : Option String :=
  if json then report.toJson?.map fun value => value.pretty ++ "\n" else some report.text

/-- Print a report, and complain if hooks cannot run. -/
def present (report : Report) (json : Bool) : Traced (Except Complaint Unit) :=
  match report.written? json with
  | none => return .error .notText
  | some text => do
    Traced.emit (.stdout text)
    return if report.healthy then .ok () else .error .unhealthy

/-- Load the configuration for the working directory and print a report about it. -/
def run (settings : Settings) (json : Bool) (fallback : Bytes) (world : World) :
    Traced (Except Complaint Unit) :=
  match world.currentDirectory with
  | .error cause => return .error (.noDirectory cause)
  | .ok directory =>
    match settings.loadConfig world directory with
    | .error failure => return .error (.noConfig failure)
    | .ok config => do
      Traced.emit (.logging config.logLevel)
      let report ← inspect config (config.locator fallback) world
      present report json

/-- The exit status of the doctor, with all that it does on the way. -/
def execute (settings : Settings) (json : Bool) (fallback : Bytes) (world : World) :
    Traced Int := do
  match ← run settings json fallback world with
  | .ok () => return 0
  | .error complaint =>
    Traced.emit (.stderr (Hook.reportLine complaint.message))
    return 1

end EmacsBatch.Doctor
