import EmacsBatch.Config.Basic
import EmacsBatch.Environment
import EmacsBatch.Invocation
import EmacsBatch.Text.Lowercase

/-!
# Settings from the environment

Each setting has an environment variable. A variable that is unset or empty gives nothing.
Directories are separated by colons, and the word for the log level may be in any case.
-/

namespace EmacsBatch

/-- The environment variable that names the interpreter. -/
def emacsVariable : String := "PRE_COMMIT_ELISP_EMACS"

/-- The environment variable that lists directories of the load path. -/
def loadPathVariable : String := "PRE_COMMIT_ELISP_LOAD_PATH"

/-- The environment variable that sets the log level. -/
def logVariable : String := "PRE_COMMIT_ELISP_LOG"

/-- The byte between two paths in a list of paths. -/
def pathSeparator : UInt8 := 0x3A

/-- The paths of a colon-separated list, without empty ones. -/
def listedPaths (list : Bytes) : List Bytes :=
  (Bytes.splitOn pathSeparator list).filter (· ≠ [])

namespace Config

/-- A text that is there and not empty. -/
def given? (value : Option String) : Option String := value.filter (· ≠ "")

/-- The layer of settings that a look-up of environment variables gives. -/
def Overlay.ofVariables (lookup : String → Option String) : Overlay where
  emacs := given? (lookup emacsVariable)
  library := (given? (lookup libraryVariable)).map Utf8.encode
  loadPath := (given? (lookup loadPathVariable)).map fun list => listedPaths (Utf8.encode list)
  logLevel := (given? (lookup logVariable)).map Text.lowercase

/-- The configuration with the settings of the environment on top. -/
def withVariables (config : Config) (lookup : String → Option String) : Config :=
  config.overlay (.ofVariables lookup)

end Config

end EmacsBatch
