import EmacsBatch.Proofs.Fields
import EmacsBatch.Proofs.Masking

/-!
# Layers on layers

The environment and the flags of a command line are laid over a configuration in the same way,
though they are written down differently. Of two layers of one kind the upper one decides
wherever it gives a setting, so both are one layer of that kind. A setting that a layer does not
give stays as it is, and layers that give no setting in common can change places, whatever their
kinds.

A load path can be given and be empty: a variable that holds separators only gives it. A flag
cannot do so, since no directories are no flag.
-/

namespace EmacsBatch

namespace Config

/-- Two look-ups of variables as one: the upper one decides unless it finds nothing or an empty
text. -/
def mergedLookup (lower upper : String → Option String) (name : String) : Option String :=
  if upper name = none ∨ upper name = some "" then lower name else upper name

/-- A value counts as given if it is a text that is not empty. -/
theorem given?_ne_none_iff (value : Option String) :
    given? value ≠ none ↔ ∃ text, value = some text ∧ text ≠ "" := by
  cases value with
  | none => simp [given?]
  | some text => simp [given?, Option.filter]

/-- A variable that the upper look-up does not give is given by the lower one or not at all. -/
theorem given?_mergedLookup (lower upper : String → Option String) (name : String) :
    given? (mergedLookup lower upper name) =
      (given? (upper name) <|> given? (lower name)) := by
  rw [mergedLookup]
  cases upper name with
  | none => simp [given?]
  | some text =>
    by_cases h : text = ""
    · simp [given?, Option.filter, h]
    · simp [given?, Option.filter, h]

/-- The value of a setting that the text of its variable stands for. -/
def Field.ofText : (field : Field) → String → field.Value
  | .emacs, text => text
  | .library, text => some (Utf8.encode text)
  | .loadPath, text => listedPaths (Utf8.encode text)
  | .logLevel, text => Text.lowercase text

/-- The environment gives a setting if its variable counts as given. -/
theorem Overlay.get?_ofVariables (lookup : String → Option String) (field : Field) :
    (ofVariables lookup).get? field = (given? (lookup field.variable)).map field.ofText := by
  cases field with
  | emacs => exact Option.map_id'.symm
  | library => exact Option.map_map _ _ _
  | loadPath => rfl
  | logLevel => rfl

/-- Two layers of variables are one layer of the two look-ups as one. -/
theorem Overlay.under_ofVariables (lower upper : String → Option String) :
    (ofVariables lower).under (ofVariables upper) = ofVariables (mergedLookup lower upper) := by
  apply eq_of_get?_eq
  intro field
  rw [get?_under, get?_ofVariables, get?_ofVariables, get?_ofVariables, given?_mergedLookup]
  cases given? (upper field.variable) <;> rfl

end Config

namespace Settings

/-- Two command lines as one: the upper one decides wherever it has a flag. -/
def under (lower upper : Settings) : Settings where
  library := upper.library <|> lower.library
  emacs := upper.emacs <|> lower.emacs
  loadPath := if upper.loadPath = [] then lower.loadPath else upper.loadPath
  configFile := upper.configFile <|> lower.configFile
  verbose := lower.verbose || upper.verbose

/-- Two layers of flags are one layer of the two command lines as one. -/
theorem under_overlay (lower upper : Settings) :
    lower.overlay.under upper.overlay = (lower.under upper).overlay := by
  have loadPath : (lower.overlay.under upper.overlay).loadPath =
      (lower.under upper).overlay.loadPath := by
    by_cases h : upper.loadPath = [] <;> simp [Config.Overlay.under, overlay, under, h]
  have logLevel : (lower.overlay.under upper.overlay).logLevel =
      (lower.under upper).overlay.logLevel := by
    cases h : lower.verbose <;> cases h' : upper.verbose <;>
      simp [Config.Overlay.under, overlay, under, h, h']
  rw [Config.Overlay.mk.injEq]
  exact ⟨rfl, rfl, loadPath, logLevel⟩

/-- The flags give a setting exactly if their layer does. -/
theorem gives_iff (settings : Settings) (field : Config.Field) :
    settings.Gives field ↔ settings.overlay.get? field ≠ none := by
  constructor
  · intro given
    cases given with
    | emacs given => simp [Config.Overlay.get?, overlay, given]
    | library given => simp [Config.Overlay.get?, overlay, given]
    | loadPath given => simp [Config.Overlay.get?, overlay, given]
    | logLevel given => simp [Config.Overlay.get?, overlay, given]
  · intro given
    cases field with
    | emacs =>
      obtain ⟨program, h⟩ := Option.ne_none_iff_exists'.1 given
      exact .emacs h
    | library =>
      cases h : settings.library with
      | none => exact absurd (Option.map_eq_none_iff.2 h) given
      | some path => exact .library h
    | loadPath => exact .loadPath fun h => given (if_pos h)
    | logLevel =>
      cases h : settings.verbose with
      | false => exact absurd (if_neg (Bool.eq_false_iff.1 h)) given
      | true => exact .logLevel h

end Settings

/-- A layer above the configuration file: variables, or the flags of a command line. -/
inductive UpperLayer where
  | environment (lookup : String → Option String)
  | flags (settings : Settings)

namespace UpperLayer

/-- The configuration with a layer on top. -/
def applyTo (config : Config) : UpperLayer → Config
  | environment lookup => config.withVariables lookup
  | flags settings => settings.applyTo config

/-- A layer gives a setting if its variable is set and not empty, or if there is a flag for
it. -/
def Gives : UpperLayer → Config.Field → Prop
  | environment lookup, field => ∃ text, lookup field.variable = some text ∧ text ≠ ""
  | flags settings, field => settings.Gives field

/-- The settings of a layer, whatever its kind. -/
def overlay : UpperLayer → Config.Overlay
  | environment lookup => .ofVariables lookup
  | flags settings => settings.overlay

/-- Layers of both kinds are put on top in the same way. -/
theorem applyTo_eq (config : Config) (layer : UpperLayer) :
    layer.applyTo config = config.overlay layer.overlay := by
  cases layer <;> rfl

/-- What is not given has no value in the layer. -/
theorem get?_overlay_eq_none_iff (layer : UpperLayer) (field : Config.Field) :
    layer.overlay.get? field = none ↔ ¬ layer.Gives field := by
  rw [← not_iff_not, not_not, ← ne_eq]
  cases layer with
  | environment lookup =>
    rw [overlay, Config.Overlay.get?_ofVariables, ne_eq, Option.map_eq_none_iff, ← ne_eq,
      Config.given?_ne_none_iff]
    rfl
  | flags settings => exact (settings.gives_iff field).symm

/-- The layers above the configuration file compose. Two of one kind are one, in which the upper
one decides wherever it gives a setting: two look-ups of variables, of which empty texts do not
count, or two command lines. A layer of either kind changes nothing when it is put on a second
time, changes nothing at all if it gives nothing, and leaves every setting alone that it does not
give. Two layers, of one kind or of both, can change places if they give no setting in common. -/
theorem layers_compose (config : Config) :
    (∀ lower upper : String → Option String,
      (config.withVariables lower).withVariables upper =
        config.withVariables (Config.mergedLookup lower upper)) ∧
    (∀ lower upper : Settings,
      upper.applyTo (lower.applyTo config) = (lower.under upper).applyTo config) ∧
    (∀ layer : UpperLayer, layer.applyTo (layer.applyTo config) = layer.applyTo config) ∧
    (∀ layer : UpperLayer, (∀ field, ¬ layer.Gives field) → layer.applyTo config = config) ∧
    (∀ (layer : UpperLayer) (field : Config.Field), ¬ layer.Gives field →
      (layer.applyTo config).get field = config.get field) ∧
    (∀ first second : UpperLayer, (∀ field, first.Gives field → ¬ second.Gives field) →
      second.applyTo (first.applyTo config) = first.applyTo (second.applyTo config)) := by
  have kept (layer : UpperLayer) (field : Config.Field) (h : ¬ layer.Gives field) :
      (layer.applyTo config).get field = config.get field := by
    rw [applyTo_eq, Config.get_overlay, (layer.get?_overlay_eq_none_iff field).2 h,
      Option.getD_none]
  refine ⟨?_, ?_, ?_, ?_, kept, ?_⟩
  · intro lower upper
    rw [Config.withVariables, Config.withVariables, Config.overlay_overlay,
      Config.Overlay.under_ofVariables, Config.withVariables]
  · intro lower upper
    rw [Settings.applyTo, Settings.applyTo, Config.overlay_overlay, Settings.under_overlay,
      Settings.applyTo]
  · intro layer
    rw [applyTo_eq, applyTo_eq, Config.overlay_self]
  · intro layer absent
    exact Config.eq_of_get_eq fun field => kept layer field (absent field)
  · intro first second disjoint
    rw [applyTo_eq, applyTo_eq, applyTo_eq, applyTo_eq]
    apply Config.overlay_comm
    intro field
    rw [first.get?_overlay_eq_none_iff, second.get?_overlay_eq_none_iff]
    by_cases given : first.Gives field
    · exact .inr (disjoint field given)
    · exact .inl given

/-- An environment in which only the load path is set, to separators. -/
def separatorsOnly (name : String) : Option String :=
  if name = loadPathVariable then some "::" else none

/-- Separators empty the load path, whether a flag for the level comes before or after. -/
theorem layers_compose_of_separators :
    (∀ field, (environment separatorsOnly).Gives field →
      ¬ (flags { verbose := true }).Gives field) ∧
    (flags { verbose := true }).applyTo
        ((environment separatorsOnly).applyTo { loadPath := [Utf8.encode "lisp"] }) =
      (environment separatorsOnly).applyTo
        ((flags { verbose := true }).applyTo { loadPath := [Utf8.encode "lisp"] }) ∧
    (flags { verbose := true }).applyTo
        ((environment separatorsOnly).applyTo { loadPath := [Utf8.encode "lisp"] }) =
      { loadPath := [], logLevel := "debug" } := by
  have disjoint (field : Config.Field) (h : (environment separatorsOnly).Gives field) :
      ¬ (flags { verbose := true }).Gives field := by
    obtain ⟨text, hlookup, -⟩ := h
    have hvariable : field.variable = Config.Field.loadPath.variable := by
      by_contra hne
      have hunset : separatorsOnly field.variable = none := if_neg hne
      cases hunset.symm.trans hlookup
    rw [Config.Field.variable_injective hvariable.symm]
    intro given
    cases given with
    | loadPath given => exact given rfl
  obtain ⟨-, -, -, -, -, comm⟩ := layers_compose { loadPath := [Utf8.encode "lisp"] }
  exact ⟨disjoint, comm _ _ disjoint, by decide⟩

end UpperLayer

end EmacsBatch
