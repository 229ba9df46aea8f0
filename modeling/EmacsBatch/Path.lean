import EmacsBatch.Bytes.Utf8

/-!
# Paths

A path is a byte string whose names are separated by slashes. Paths are kept as they are
written; only where a path has to be resolved or taken apart are its names looked at.
-/

namespace EmacsBatch.Path

/-- The byte between two names of a path. -/
def slash : UInt8 := 0x2F

/-- The name of the directory itself. -/
def dot : Bytes := [0x2E]

/-- The name of the parent directory. -/
def dotDot : Bytes := [0x2E, 0x2E]

/-- Whether a path starts at the root. -/
def isAbsolute (path : Bytes) : Bool := path.head? = some slash

/-- A path that is relative to a directory, seen from where the directory is. -/
def join (directory path : Bytes) : Bytes :=
  if isAbsolute path || directory.isEmpty then path
  else if directory.getLast? = some slash then directory ++ path
  else directory ++ slash :: path

/-- The names of a path, without the empty ones between repeated slashes. -/
def names (path : Bytes) : List Bytes := (Bytes.splitOn slash path).filter (· ≠ [])

/-- The names that are walked through when a path is resolved; a slash at the end asks for
a directory, as a final `.` does. -/
def steps (path : Bytes) : List Bytes :=
  if path.getLast? = some slash then names path ++ [dot] else names path

/-- A part of a path. -/
inductive Component where
  | root
  /-- A `.` at the very front of a relative path. -/
  | current
  | parent
  | name (name : Bytes)
  deriving DecidableEq

/-- The component for a name that is not `.`. -/
def Component.ofName (word : Bytes) : Component :=
  if word = dotDot then .parent else .name word

/-- The components of a path; a `.` counts only at the front of a relative path. -/
def components (path : Bytes) : List Component :=
  let front : List Component :=
    if isAbsolute path then [.root]
    else if (Bytes.splitOn slash path).head? = some dot then [.current]
    else []
  front ++ ((names path).filter (· ≠ dot)).map Component.ofName

/-- The written form of a component. -/
def Component.bytes : Component → Bytes
  | .root => [slash]
  | .current => dot
  | .parent => dotDot
  | .name word => word

/-- A directory followed by components, joined one after the other. -/
def extend (directory : Bytes) (components : List Component) : Bytes :=
  components.foldl (fun path component => join path component.bytes) directory

/-- The written form of the directory that is reached from the root through some names. -/
def ofNames (names : List Bytes) : Bytes :=
  slash :: Bytes.joinWith slash names

end EmacsBatch.Path
