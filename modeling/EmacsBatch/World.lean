import EmacsBatch.Environment
import EmacsBatch.FileTree

/-!
# Worlds

All that a command sees besides its own arguments: the file tree, the environment, and the
working directory, which may have been removed.
-/

namespace EmacsBatch

/-- The surroundings in which a command runs. -/
structure World where
  tree : FileTree
  environment : Environment
  /-- The working directory, which may be removed. -/
  directory : Spot

namespace World

/-- The absolute path of the working directory, which a removed one does not have. -/
def currentDirectory (world : World) : Except SystemError Bytes :=
  if world.directory.removed = 0 then .ok (Path.ofNames world.directory.place)
  else .error .noEntry

/-- Whether a path leads to anything. -/
def pathExists (world : World) (path : Bytes) : Bool :=
  world.tree.pathExists world.directory path

/-- Whether a path leads to a regular file. -/
def isFile (world : World) (path : Bytes) : Bool := world.tree.isFile world.directory path

/-- Whether a path leads to a regular file that may be executed. -/
def isExecutable (world : World) (path : Bytes) : Bool :=
  world.tree.isExecutable world.directory path

/-- The entry that a path leads to. -/
def lookup (world : World) (path : Bytes) : Except SystemError Entry :=
  world.tree.lookup world.directory path

/-- The text in the file that a path leads to. -/
def readText (world : World) (path : Bytes) : Except SystemError String :=
  world.tree.readText world.directory path

/-- The world after an entry was put at a place. -/
def put (world : World) (place : Place) (entry : Entry) : World :=
  { world with tree := world.tree.put place entry }

/-- The world after a place and all below it were removed, the working directory too if it
is there. -/
def remove (world : World) (place : Place) : World where
  tree := world.tree.remove place
  environment := world.environment
  directory := world.directory.afterRemoval place

end World

end EmacsBatch
