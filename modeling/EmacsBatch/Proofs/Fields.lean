import EmacsBatch.Config.Environment
import EmacsBatch.Config.Json

/-!
# Settings one by one

Configurations and layers are compared in one setting at a time. A setting is read by `get` and
replaced by `set`; a layer gives a setting or not, and what it gives is in the configuration
after the layer was put on top. All else about layers follows from this one equation.
-/

namespace EmacsBatch.Config

/-- The values that a setting can have. -/
abbrev Field.Value : Field → Type
  | .emacs => String
  | .library => Option Bytes
  | .loadPath => List Bytes
  | .logLevel => String

/-- The value of a setting. -/
def get (config : Config) : (field : Field) → field.Value
  | .emacs => config.emacs
  | .library => config.library
  | .loadPath => config.loadPath
  | .logLevel => config.logLevel

/-- The configuration with another value of a setting. -/
def set (config : Config) : (field : Field) → field.Value → Config
  | .emacs, emacs => { config with emacs }
  | .library, library => { config with library }
  | .loadPath, loadPath => { config with loadPath }
  | .logLevel, logLevel => { config with logLevel }

/-- Configurations that agree in every setting are the same. -/
theorem eq_of_get_eq {config other : Config} (h : ∀ field, config.get field = other.get field) :
    config = other := by
  have emacs : config.emacs = other.emacs := h .emacs
  have library : config.library = other.library := h .library
  have loadPath : config.loadPath = other.loadPath := h .loadPath
  have logLevel : config.logLevel = other.logLevel := h .logLevel
  cases config
  cases other
  simp_all

/-- A setting that was replaced has its new value. -/
@[simp]
theorem get_set_self (config : Config) (field : Field) (value : field.Value) :
    (config.set field value).get field = value := by
  cases field <;> rfl

/-- Replacing a setting leaves the others alone. -/
theorem get_set_of_ne (config : Config) {field other : Field} (value : field.Value)
    (h : other ≠ field) : (config.set field value).get other = config.get other := by
  cases field <;> cases other <;> first | rfl | exact absurd rfl h

namespace Overlay

/-- The value that a layer gives a setting. -/
def get? (layer : Overlay) : (field : Field) → Option field.Value
  | .emacs => layer.emacs
  | .library => layer.library.map some
  | .loadPath => layer.loadPath
  | .logLevel => layer.logLevel

/-- Layers that give every setting alike are the same. -/
theorem eq_of_get?_eq {layer other : Overlay} (h : ∀ field, layer.get? field = other.get? field) :
    layer = other := by
  have emacs : layer.emacs = other.emacs := h .emacs
  have library : layer.library = other.library :=
    (Option.map_inj_right fun _ _ => Option.some.inj).1 (h .library)
  have loadPath : layer.loadPath = other.loadPath := h .loadPath
  have logLevel : layer.logLevel = other.logLevel := h .logLevel
  cases layer
  cases other
  simp_all

/-- Of two layers as one, the lower gives what the upper does not. -/
theorem get?_under (lower upper : Overlay) (field : Field) :
    (lower.under upper).get? field = (upper.get? field <|> lower.get? field) := by
  cases field with
  | emacs => rfl
  | library => cases h : upper.library <;> simp [under, get?, h]
  | loadPath => rfl
  | logLevel => rfl

end Overlay

/-- A setting has the value that the layer on top gives it, and its own if the layer gives
none. -/
theorem get_overlay (config : Config) (layer : Overlay) (field : Field) :
    (config.overlay layer).get field = (layer.get? field).getD (config.get field) := by
  cases field with
  | emacs => rfl
  | library => cases h : layer.library <;> simp [overlay, get, Overlay.get?, h]
  | loadPath => rfl
  | logLevel => rfl

/-- A layer on top of itself changes nothing more. -/
theorem overlay_self (config : Config) (layer : Overlay) :
    (config.overlay layer).overlay layer = config.overlay layer := by
  apply eq_of_get_eq
  intro field
  rw [get_overlay, get_overlay]
  cases layer.get? field <;> rfl

/-- Layers that give no setting in common can be put on in any order. -/
theorem overlay_comm (config : Config) {first second : Overlay}
    (disjoint : ∀ field, first.get? field = none ∨ second.get? field = none) :
    (config.overlay first).overlay second = (config.overlay second).overlay first := by
  apply eq_of_get_eq
  intro field
  simp only [get_overlay]
  rcases disjoint field with h | h
  · rw [h, Option.getD_none, Option.getD_none]
  · rw [h, Option.getD_none, Option.getD_none]

end EmacsBatch.Config
