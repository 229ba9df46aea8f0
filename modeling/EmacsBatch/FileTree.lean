import EmacsBatch.Path
import EmacsBatch.SystemError

/-!
# File trees

The part of a file system that hooks can see: directories, regular files, programs and
symbolic links, each under its canonical place. Resolving a path walks through its names,
follows the links it meets, and ends at the spot of an entry or with the error that the
operating system reports.

Permissions other than the permission to execute are not modelled.
-/

namespace EmacsBatch

/-- How a program ends: with an exit status of eight bits, or by a signal, whose number has
seven. -/
inductive Ending where
  | exit (status : UInt8)
  | signal (number : Fin 128)
  deriving DecidableEq

/-- What a program does when it is started: it writes to its outputs and ends. -/
structure Program where
  stdout : Bytes := []
  stderr : Bytes := []
  ending : Ending := .exit 0
  deriving DecidableEq

/-- An entry of a file tree. -/
inductive Entry where
  | directory
  | file (content : Bytes) (executable : Bool)
  | program (program : Program)
  | link (target : Bytes)
  deriving DecidableEq

/-- A place in a file tree: the names that lead to it from the root. -/
abbrev Place := List Bytes

/-- Where a process is, or gets to by a path: a place, unless directories on the way to it
have been removed in the meantime.

A removed directory is still a directory with a parent for who is in it, but it is empty
for good, even if another one is created at its place. -/
structure Spot where
  place : Place
  /-- How many of the last names of the place belong to removed directories. -/
  removed : Nat := 0
  deriving DecidableEq

namespace Spot

/-- The parent directory; the root is its own parent. -/
def parent (spot : Spot) : Spot := ⟨spot.place.dropLast, spot.removed - 1⟩

/-- The names of the place whose directories are still there. -/
def remaining (spot : Spot) : Place := spot.place.take (spot.place.length - spot.removed)

/-- The spot after a place and all below it were removed. -/
def afterRemoval (spot : Spot) (place : Place) : Spot :=
  if place.isPrefixOf spot.remaining then ⟨spot.place, spot.place.length - place.length + 1⟩
  else spot

end Spot

/-- The entries of a file tree at their places; the root is always a directory. -/
structure FileTree where
  entries : List (Place × Entry)
  deriving DecidableEq

namespace FileTree

/-- The entry at a place. -/
def entry? (tree : FileTree) (place : Place) : Option Entry :=
  if place = [] then some .directory
  else (tree.entries.find? (·.1 = place)).map (·.2)

/-- The entry at a spot. -/
def entryAt? (tree : FileTree) (spot : Spot) : Option Entry :=
  if spot.removed = 0 then tree.entry? spot.place else some .directory

/-- The most links that are followed for one path. -/
def linkLimit : Nat := 40

/-- The most bytes of one name. -/
def nameLimit : Nat := 255

/-- The number of bytes from which on a path is too long. -/
def pathLimit : Nat := 4096

/-- Walk through names from a spot; `follow` says how to go on at a link, given the
directory it stands in, its target and the names after it. -/
def walk (tree : FileTree) (follow : Spot → Bytes → List Bytes → Except SystemError Spot)
    (here : Spot) : List Bytes → Except SystemError Spot
  | [] => .ok here
  | name :: rest =>
    if tree.entryAt? here ≠ some .directory then .error .notDirectory
    else if name = Path.dot then walk tree follow here rest
    else if name = Path.dotDot then walk tree follow here.parent rest
    else if here.removed ≠ 0 then .error .noEntry
    else if nameLimit < name.length then .error .nameTooLong
    else match tree.entry? (here.place ++ [name]) with
      | none => .error .noEntry
      | some (.link target) => follow here target rest
      | some _ => walk tree follow ⟨here.place ++ [name], 0⟩ rest

/-- Walk through names and follow at most `links` links on the way. -/
def walkLinks (tree : FileTree) : Nat → Spot → List Bytes → Except SystemError Spot
  | 0 => walk tree fun _ _ _ => .error .tooManyLinks
  | links + 1 => walk tree fun here target rest =>
    walkLinks tree links (if Path.isAbsolute target then ⟨[], 0⟩ else here)
      (Path.steps target ++ rest)

/-- The spot that a path leads to from another one, with all links followed. -/
def resolve (tree : FileTree) (start : Spot) (path : Bytes) : Except SystemError Spot :=
  if Bytes.hasNul path then .error .nulInPath
  else if path = [] then .error .noEntry
  else if pathLimit ≤ path.length then .error .nameTooLong
  else tree.walkLinks linkLimit (if Path.isAbsolute path then ⟨[], 0⟩ else start)
    (Path.steps path)

/-- The entry that a path leads to, with all links followed. -/
def lookup (tree : FileTree) (start : Spot) (path : Bytes) : Except SystemError Entry := do
  let spot ← tree.resolve start path
  match tree.entryAt? spot with
  | some entry => return entry
  | none => throw .noEntry

/-- The place that names lead to from another one, where an entry can be put or removed. All
links are followed but the last; a name that leads nowhere yet stands for itself. -/
def placeOf (tree : FileTree) (here : Place) : List Bytes → Place
  | [] => here
  | name :: rest =>
    if name = Path.dot then placeOf tree here rest
    else if name = Path.dotDot then placeOf tree here.dropLast rest
    else if rest = [] then here ++ [name]
    else match tree.resolve ⟨here, 0⟩ name with
      | .ok spot => placeOf tree spot.place rest
      | .error _ => placeOf tree (here ++ [name]) rest

/-- Whether a path leads to anything. -/
def pathExists (tree : FileTree) (start : Spot) (path : Bytes) : Bool :=
  (tree.lookup start path).isOk

/-- Whether a path leads to a regular file. -/
def isFile (tree : FileTree) (start : Spot) (path : Bytes) : Bool :=
  match tree.lookup start path with
  | .ok (.file _ _) | .ok (.program _) => true
  | _ => false

/-- Whether a path leads to a regular file that may be executed. -/
def isExecutable (tree : FileTree) (start : Spot) (path : Bytes) : Bool :=
  match tree.lookup start path with
  | .ok (.file _ executable) => executable
  | .ok (.program _) => true
  | _ => false

/-- The text in the file that a path leads to; a program holds none. -/
def readText (tree : FileTree) (start : Spot) (path : Bytes) :
    Except SystemError String := do
  match ← tree.lookup start path with
  | .directory => throw .isDirectory
  | .file content _ =>
    match Utf8.decode? content with
    | some text => return text
    | none => throw .notText
  | .program _ | .link _ => throw .notText

/-- The tree without a place and all that is below it. -/
def remove (tree : FileTree) (place : Place) : FileTree :=
  ⟨tree.entries.filter fun entry => !place.isPrefixOf entry.1⟩

/-- The tree with an entry at a place instead of what was there. -/
def insert (tree : FileTree) (place : Place) (entry : Entry) : FileTree :=
  ⟨(place, entry) :: (tree.remove place).entries⟩

/-- The tree with directories at all places on the way to a place, where nothing was. -/
def makeParents (tree : FileTree) (done : Place) : Place → FileTree
  | [] | [_] => tree
  | name :: rest =>
    let place := done ++ [name]
    match tree.entry? place with
    | some _ => makeParents tree place rest
    | none => makeParents ⟨(place, .directory) :: tree.entries⟩ place rest

/-- The tree with an entry put at a place, with its parents created. -/
def put (tree : FileTree) (place : Place) (entry : Entry) : FileTree :=
  match entry with
  | .directory =>
    match tree.entry? place with
    | some .directory => tree
    | _ => (tree.makeParents [] place).insert place entry
  | _ => (tree.makeParents [] place).insert place entry

end FileTree

end EmacsBatch
