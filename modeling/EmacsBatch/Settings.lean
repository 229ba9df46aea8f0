import EmacsBatch.Config.Basic

/-!
# Settings given on a command line

The flags that all commands share. They form the topmost layer of the configuration, and
one of them chooses the configuration file.
-/

namespace EmacsBatch

/-- The flags of a command line that set something. -/
structure Settings where
  library : Option Bytes := none
  emacs : Option String := none
  loadPath : List Bytes := []
  configFile : Option Bytes := none
  verbose : Bool := false
  deriving DecidableEq

namespace Settings

/-- The layer of settings that the flags give; directories replace the load path only if
there are some. -/
def overlay (settings : Settings) : Config.Overlay where
  emacs := settings.emacs
  library := settings.library
  loadPath := if settings.loadPath = [] then none else some settings.loadPath
  logLevel := if settings.verbose then some Log.Level.debug.name else none

/-- The configuration with the flags on top. -/
def applyTo (settings : Settings) (config : Config) : Config := config.overlay settings.overlay

end Settings

end EmacsBatch
