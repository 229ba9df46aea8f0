import EmacsBatch.Bytes
import EmacsBatch.Log.Level

/-!
# Configurations

The four settings that all hooks share: which interpreter to call, where the helper library
is, which directories to load from, and how much to log. Defaults stand at the bottom;
further layers replace single settings. A configuration is used only once it is valid.
-/

namespace EmacsBatch

/-- The settings of the hooks. -/
structure Config where
  emacs : String := "emacs"
  library : Option Bytes := none
  loadPath : List Bytes := []
  logLevel : String := "warn"
  deriving DecidableEq

namespace Config

/-- The configuration when nothing is set anywhere. -/
def default : Config := {}

/-- The name of the configuration file that is looked for in a directory. -/
def fileName : String := ".pre-commit-elisp.toml"

/-- One layer of settings, each of which may be given or not. -/
structure Overlay where
  emacs : Option String := none
  library : Option Bytes := none
  loadPath : Option (List Bytes) := none
  logLevel : Option String := none
  deriving DecidableEq

/-- The configuration with the given settings of a layer on top. -/
def overlay (config : Config) (layer : Overlay) : Config where
  emacs := layer.emacs.getD config.emacs
  library := layer.library <|> config.library
  loadPath := layer.loadPath.getD config.loadPath
  logLevel := layer.logLevel.getD config.logLevel

/-- Two layers as one, the upper one deciding wherever it gives a setting. -/
def Overlay.under (lower upper : Overlay) : Overlay where
  emacs := upper.emacs <|> lower.emacs
  library := upper.library <|> lower.library
  loadPath := upper.loadPath <|> lower.loadPath
  logLevel := upper.logLevel <|> lower.logLevel

/-- Laying one layer over another is laying their union over the configuration. -/
theorem overlay_overlay (config : Config) (lower upper : Overlay) :
    (config.overlay lower).overlay upper = config.overlay (lower.under upper) := by
  cases lower with
  | mk a b c d =>
    cases upper with
    | mk a' b' c' d' =>
      cases a' <;> cases b' <;> cases c' <;> cases d' <;> simp [overlay, Overlay.under]

end Config

end EmacsBatch
