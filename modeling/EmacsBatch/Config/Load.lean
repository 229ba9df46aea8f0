import EmacsBatch.Config.Environment
import EmacsBatch.Config.File
import EmacsBatch.Config.Validation
import EmacsBatch.Settings
import EmacsBatch.World

/-!
# Loading configurations

A configuration is loaded from a file, or from the file of a fixed name in a directory if
there is one; then the environment is laid over it, and the result must be valid. The flags
of a command line come on top, after which it must be valid again. A value that a flag
replaces is therefore still checked.
-/

namespace EmacsBatch

namespace Config

/-- The configuration that a file describes. -/
def readFile (world : World) (path : Bytes) : Except Failure Config :=
  match world.readText path with
  | .error cause => .error (.io cause)
  | .ok source =>
    match ofFileText source with
    | .ok config => .ok config
    | .error message =>
      .error (.invalidConfig ("Invalid config file " ++ Utf8.lossy path ++ ": " ++ message))

/-- The configuration that a file describes, under the settings of the environment. -/
def loadFile (world : World) (path : Bytes) : Except Failure Config := do
  let config ← readFile world path
  (config.withVariables world.environment.text?).validated

/-- The path of a directory's configuration file. -/
def filePath (directory : Bytes) : Bytes := Path.join directory (Utf8.encode fileName)

/-- The configuration of a directory: that of its file if there is one, and the default
otherwise, under the settings of the environment. -/
def load (world : World) (directory : Bytes) : Except Failure Config := do
  let path := filePath directory
  let config ← if world.pathExists path then readFile world path else pure default
  (config.withVariables world.environment.text?).validated

end Config

/-- The configuration that a command uses when it is called in a directory with flags. -/
def Settings.loadConfig (settings : Settings) (world : World) (directory : Bytes) :
    Except Failure Config := do
  let config ← match settings.configFile with
    | some path => Config.loadFile world path
    | none => Config.load world directory
  (settings.applyTo config).validated

end EmacsBatch
