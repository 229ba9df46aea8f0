import EmacsBatch.Config.Environment
import EmacsBatch.World

/-!
# Finding programs

A program named by an absolute path is looked for there, one named with a directory is looked
for from the working directory, and any other is looked for in the directories of the search
path, in order. Only a regular file that may be executed counts.
-/

namespace EmacsBatch.Lookup

/-- The environment variable that holds the search path. -/
def searchVariable : String := "PATH"

/-- The environment variable that names the home directory. -/
def homeVariable : String := "HOME"

/-- The home directory of the user. -/
def userHome : Bytes := Utf8.encode "/root"

/-- The name that stands for the home directory at the front of a directory to search. -/
def homeMark : Bytes := [0x7E]

/-- Why a program was not found. -/
inductive LookupError where
  | notFound
  /-- There is no search path. -/
  | noSearchPath
  deriving DecidableEq

/-- The text of an error. -/
def LookupError.message : LookupError → String
  | .notFound => "cannot find binary path"
  | .noSearchPath => "no path to search and provided name is not an absolute path"

/-- An absolute path as it is, and a relative one seen from a directory, component by
component and without the `.` at its front. -/
def absolute (directory path : Bytes) : Bytes :=
  if Path.isAbsolute path then path
  else Path.extend directory ((Path.components path).dropWhile (· = .current))

/-- The home directory: the user's own unless a variable names another one. -/
def homeDirectory (world : World) : Bytes :=
  ((world.environment.value? homeVariable).filter (· ≠ [])).getD userHome

/-- Whether a path begins with the mark. -/
def startsAtHome (path : Bytes) : Bool :=
  (Path.components path).head? = some (.name homeMark)

/-- A directory of the search path with the home directory in place of its mark. -/
def expandHome (world : World) (directory : Bytes) : Bytes :=
  if startsAtHome directory then
    Path.extend (homeDirectory world) ((Path.components directory).drop 1)
  else directory

/-- The path of a program in a directory of the search path. A relative directory is seen
from the working directory, unless it begins with the mark even after that was replaced. -/
def candidate (world : World) (program directory : Bytes) : Bytes :=
  let directory := expandHome world directory
  let directory := match world.currentDirectory with
    | .ok here => if startsAtHome directory then directory else absolute here directory
    | .error _ => directory
  Path.join directory program

/-- The paths at which a program is looked for, in order. -/
def candidates (world : World) (program : Bytes) : Except LookupError (List Bytes) :=
  if Path.isAbsolute program then .ok [program]
  else match world.currentDirectory, decide (1 < (Path.components program).length) with
  | .ok here, true => .ok [absolute here program]
  | _, _ =>
    match world.environment.value? searchVariable with
    | none => .error .noSearchPath
    | some searched =>
      .ok ((Bytes.splitOn pathSeparator searched).map (candidate world program))

/-- The path of a program. -/
def locate (world : World) (program : Bytes) : Except LookupError Bytes := do
  match (← candidates world program).find? world.isExecutable with
  | some path => return path
  | none => throw .notFound

end EmacsBatch.Lookup
