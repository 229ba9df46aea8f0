import EmacsBatch.Proofs.Loading
import Mathlib

/-!
# Settings that a flag replaces

A flag replaces a setting whatever the configuration file and the environment say about it, so
two worlds that differ in that setting alone have the same configuration under the flag. The
layers below the flags are checked on their own, however, before the flags are laid over them.
A value that nobody will use can therefore still be refused, and loading can fail in one of the
two worlds only.

What is compared is the first problem that the two checks find. The results are the same
exactly when it is the same one; they are the same whenever the layers below the flags are
valid in both worlds.
-/

namespace EmacsBatch

namespace Config

/-- Two configurations that agree in all settings but one. -/
structure AgreeBut (field : Field) (config other : Config) : Prop where
  emacs : field ≠ .emacs → config.emacs = other.emacs
  library : field ≠ .library → config.library = other.library
  loadPath : field ≠ .loadPath → config.loadPath = other.loadPath
  logLevel : field ≠ .logLevel → config.logLevel = other.logLevel

/-- A configuration agrees with itself. -/
theorem AgreeBut.refl (field : Field) (config : Config) : AgreeBut field config config :=
  ⟨fun _ => rfl, fun _ => rfl, fun _ => rfl, fun _ => rfl⟩

/-- Agreement can be read in both directions. -/
theorem AgreeBut.symm {field : Field} {config other : Config} (h : AgreeBut field config other) :
    AgreeBut field other config :=
  ⟨fun ne => (h.emacs ne).symm, fun ne => (h.library ne).symm, fun ne => (h.loadPath ne).symm,
    fun ne => (h.logLevel ne).symm⟩

/-- Agreement goes through a configuration in between. -/
theorem AgreeBut.trans {field : Field} {first second third : Config}
    (h : AgreeBut field first second) (h' : AgreeBut field second third) :
    AgreeBut field first third :=
  ⟨fun ne => (h.emacs ne).trans (h'.emacs ne), fun ne => (h.library ne).trans (h'.library ne),
    fun ne => (h.loadPath ne).trans (h'.loadPath ne),
    fun ne => (h.logLevel ne).trans (h'.logLevel ne)⟩

/-- The values of the shape that a setting has. -/
def Field.Fits : Field → Json → Prop
  | .emacs, value | .logLevel, value => ∃ text, value = .string text
  | .library, value => value = .null ∨ ∃ text, value = .string text
  | .loadPath, value => ∃ texts : List String, value = .array (texts.map .string)

/-- Texts are read as the elements of a list of paths. -/
theorem readElements_strings (position : Nat) (texts : List String) :
    readElements position (texts.map .string) = .ok (texts.map Utf8.encode) := by
  induction texts generalizing position with
  | nil => rfl
  | cons text rest ih =>
    simp only [List.map_cons, readElements, readPath, ih]
    rfl

/-- A value of the right shape is read, and sets its own setting only. -/
theorem Field.read_of_fits {field : Field} {value : Json} (h : field.Fits value)
    (config : Config) :
    ∃ next, field.read config value = .ok next ∧ AgreeBut field next config := by
  cases field with
  | emacs =>
    obtain ⟨text, rfl⟩ := h
    exact ⟨{ config with emacs := text }, rfl, by constructor <;> simp⟩
  | library =>
    obtain rfl | ⟨text, rfl⟩ := h
    · exact ⟨{ config with library := none }, rfl, by constructor <;> simp⟩
    · exact ⟨{ config with library := some (Utf8.encode text) }, rfl, by constructor <;> simp⟩
  | loadPath =>
    obtain ⟨texts, rfl⟩ := h
    refine ⟨{ config with loadPath := texts.map Utf8.encode }, ?_, by constructor <;> simp⟩
    simp [Field.read, readPaths, readElements_strings, Except.map]
  | logLevel =>
    obtain ⟨text, rfl⟩ := h
    exact ⟨{ config with logLevel := text }, rfl, by constructor <;> simp⟩

/-- Two results of steps that go on alike or fail with one error. -/
def Alike {ε α : Type} (same : α → α → Prop) (result other : Except ε α) : Prop :=
  (∃ value value', result = .ok value ∧ other = .ok value' ∧ same value value') ∨
    ∃ e, result = .error e ∧ other = .error e

/-- One value that is put into two configurations. -/
theorem alike_map {ε α : Type} {field : Field} {put put' : α → Config}
    (h : ∀ a, AgreeBut field (put a) (put' a)) (result : Except ε α) :
    Alike (AgreeBut field) (result.map put) (result.map put') := by
  cases result with
  | error e => exact .inr ⟨e, rfl, rfl⟩
  | ok a => exact .inl ⟨put a, put' a, rfl, rfl, h a⟩

/-- One value is read alike over configurations that agree. -/
theorem Field.read_agreeBut {field : Field} {config other : Config}
    (agree : AgreeBut field config other) (setting : Field) (value : Json) :
    Alike (AgreeBut field) (setting.read config value) (setting.read other value) := by
  obtain ⟨emacs, library, loadPath, logLevel⟩ := agree
  cases setting with
  | emacs =>
    apply alike_map
    intro text
    exact ⟨fun _ => rfl, library, loadPath, logLevel⟩
  | library =>
    apply alike_map
    intro path
    exact ⟨emacs, fun _ => rfl, loadPath, logLevel⟩
  | loadPath =>
    apply alike_map
    intro paths
    exact ⟨emacs, library, fun _ => rfl, logLevel⟩
  | logLevel =>
    apply alike_map
    intro text
    exact ⟨emacs, library, loadPath, fun _ => rfl⟩

/-- Two values of a setting that are the same, or that both have its shape if the setting is
the one that may differ. -/
def SameValue (field setting : Field) (value other : Json) : Prop :=
  value = other ∨ setting = field ∧ field.Fits value ∧ field.Fits other

/-- Two values that are the same but for one setting are read alike. -/
theorem Field.read_sameValue {field setting : Field} {value value' : Json}
    (h : SameValue field setting value value') {config other : Config}
    (agree : AgreeBut field config other) :
    Alike (AgreeBut field) (setting.read config value) (setting.read other value') := by
  obtain rfl | ⟨rfl, fits, fits'⟩ := h
  · exact Field.read_agreeBut agree setting value
  · obtain ⟨next, hread, hnext⟩ := read_of_fits fits config
    obtain ⟨next', hread', hnext'⟩ := read_of_fits fits' other
    exact .inl ⟨next, next', hread, hread', (hnext.trans agree).trans hnext'.symm⟩

/-- Two rows of values that are the same but for one setting are read alike. -/
theorem readFields_alike {field : Field} {fields others : List (Field × Json)}
    (h : List.Forall₂ (fun entry other => entry.1 = other.1 ∧
      SameValue field entry.1 entry.2 other.2) fields others)
    {config other : Config} (agree : AgreeBut field config other) :
    Alike (AgreeBut field) (readFields config fields) (readFields other others) := by
  induction h generalizing config other with
  | nil => exact .inl ⟨config, other, rfl, rfl, agree⟩
  | @cons entry entry' rest rest' first _ ih =>
    obtain ⟨setting, value⟩ := entry
    obtain ⟨setting', value'⟩ := entry'
    obtain ⟨rfl, same⟩ : setting = setting' ∧ SameValue field setting value value' := first
    rcases Field.read_sameValue same agree with
      ⟨next, next', hread, hread', hnext⟩ | ⟨mismatch, hread, hread'⟩
    · simp only [readFields, hread, hread']
      exact ih hnext
    · exact .inr ⟨(setting, mismatch), by simp only [readFields, hread],
        by simp only [readFields, hread']⟩

/-- The setting that a name stands for. -/
theorem Field.ofName?_name (field : Field) : ofName? field.name = some field := by
  cases field <;> decide

/-- Two entries of configuration files that say the same, or that both have the shape of the
setting that may differ. Where they stand in their files does not matter. -/
def SameEntry (field : Field) (entry other : String × Toml.Node) : Prop :=
  entry.1 = other.1 ∧ (entry.2.toJson = other.2.toJson ∨
    entry.1 = field.name ∧ field.Fits entry.2.toJson ∧ field.Fits other.2.toJson)

/-- The settings of two files that say the same but for one of them. -/
theorem fileFields_sameValue {field : Field} {entries others : Toml.Entries}
    (h : List.Forall₂ (SameEntry field) entries others) :
    List.Forall₂ (fun entry other => entry.1 = other.1 ∧
        SameValue field entry.1 entry.2 other.2)
      ((fileFields entries).map fun entry => (entry.1, entry.2.toJson))
      ((fileFields others).map fun entry => (entry.1, entry.2.toJson)) := by
  induction h with
  | nil => exact .nil
  | @cons entry entry' rest rest' first _ ih =>
    obtain ⟨name, node⟩ := entry
    obtain ⟨name', node'⟩ := entry'
    obtain ⟨rfl, same⟩ : name = name' ∧ (node.toJson = node'.toJson ∨
      name = field.name ∧ field.Fits node.toJson ∧ field.Fits node'.toJson) := first
    cases hname : Field.ofName? name with
    | none => simpa only [fileFields, List.filterMap_cons, hname, Option.map_none] using ih
    | some setting =>
      simp only [fileFields, List.filterMap_cons, hname, Option.map_some, List.map_cons]
      refine .cons ⟨rfl, ?_⟩ ih
      obtain heq | ⟨rfl, fits, fits'⟩ := same
      · exact .inl heq
      · rw [Field.ofName?_name, Option.some.injEq] at hname
        exact .inr ⟨hname.symm, fits, fits'⟩

/-- Two texts of well-formed configuration files that say the same but for one setting. -/
def SameText (field : Field) (source other : String) : Prop :=
  ∃ entries entries', Toml.entriesOf? source = some entries ∧
    Toml.entriesOf? other = some entries' ∧ List.Forall₂ (SameEntry field) entries entries'

/-- A file with a value of a wrong shape is refused. -/
theorem ofFileText_of_mismatch {source : String} {entries : Toml.Entries}
    {refused : Field × Mismatch} (hentries : Toml.entriesOf? source = some entries)
    (hread : readFields default
      ((fileFields entries).map fun entry => (entry.1, entry.2.toJson)) = .error refused) :
    ∃ message, ofFileText source = .error message := by
  simp only [ofFileText, hentries, hread]
  exact ⟨_, rfl⟩

/-- Two such texts describe configurations that agree but for the setting, or a value of
another setting is refused in both; the message shows the line on which that value stands. -/
theorem ofFileText_of_sameText {field : Field} {source other : String}
    (h : SameText field source other) :
    (∃ config config', ofFileText source = .ok config ∧ ofFileText other = .ok config' ∧
      AgreeBut field config config') ∨
    ∃ message message', ofFileText source = .error message ∧
      ofFileText other = .error message' := by
  obtain ⟨entries, entries', hentries, hentries', same⟩ := h
  rcases readFields_alike (fileFields_sameValue same) (.refl field default) with
    ⟨config, config', hread, hread', agree⟩ | ⟨e, hread, hread'⟩
  · refine .inl ⟨config, config', ?_, ?_, agree⟩
    · simp only [ofFileText, hentries, hread]
    · simp only [ofFileText, hentries', hread']
  · obtain ⟨message, hmessage⟩ := ofFileText_of_mismatch hentries hread
    obtain ⟨message', hmessage'⟩ := ofFileText_of_mismatch hentries' hread'
    exact .inr ⟨message, message', hmessage, hmessage'⟩

/-- A file that describes no configuration is an invalid configuration. -/
theorem readFile_of_refused {world : World} {path : Bytes} {source message : String}
    (htext : world.readText path = .ok source) (hparse : ofFileText source = .error message) :
    ∃ shown, readFile world path = .error (.invalidConfig shown) := by
  simp only [readFile, htext, hparse]
  exact ⟨_, rfl⟩

/-- The environment variable of a setting. -/
def Field.variable : Field → String
  | .emacs => emacsVariable
  | .library => libraryVariable
  | .loadPath => loadPathVariable
  | .logLevel => logVariable

/-- Different settings have different variables. -/
theorem Field.variable_injective {field setting : Field} (h : setting.variable = field.variable) :
    field = setting := by
  cases field <;> cases setting <;> first | rfl | exact absurd h (by decide)

/-- Environments that agree but for the variable of one setting keep configurations in
agreement but for that setting. -/
theorem AgreeBut.withVariables {field : Field} {config other : Config}
    (agree : AgreeBut field config other) {lookup lookup' : String → Option String}
    (h : ∀ name, name ≠ field.variable → lookup name = lookup' name) :
    AgreeBut field (config.withVariables lookup) (other.withVariables lookup') := by
  have same {setting : Field} (ne : field ≠ setting) :
      lookup setting.variable = lookup' setting.variable :=
    h _ fun heq => ne (Field.variable_injective heq)
  constructor
  · intro ne
    have hvariable : lookup emacsVariable = lookup' emacsVariable := same ne
    simp only [Config.withVariables, overlay, Overlay.ofVariables, hvariable, agree.emacs ne]
  · intro ne
    have hvariable : lookup libraryVariable = lookup' libraryVariable := same ne
    simp only [Config.withVariables, overlay, Overlay.ofVariables, hvariable, agree.library ne]
  · intro ne
    have hvariable : lookup loadPathVariable = lookup' loadPathVariable := same ne
    simp only [Config.withVariables, overlay, Overlay.ofVariables, hvariable, agree.loadPath ne]
  · intro ne
    have hvariable : lookup logVariable = lookup' logVariable := same ne
    simp only [Config.withVariables, overlay, Overlay.ofVariables, hvariable, agree.logLevel ne]

/-- What the message about an unknown level says before and after the word. -/
theorem Problem.message_unknownLevel (word : String) :
    (unknownLevel word).message =
      "log_level must be one of " ++ ", ".intercalate (Log.Level.all.map Log.Level.name)
        ++ ", got '" ++ word ++ "'" := rfl

/-- The messages of the two problems differ in their first letter. -/
theorem Problem.blankInterpreter_message_ne (word : String) :
    blankInterpreter.message ≠ (unknownLevel word).message := by
  intro h
  have hlist :
      "emacs must name an interpreter program".toList = (unknownLevel word).message.toList :=
    congrArg String.toList h
  simp only [message_unknownLevel, String.toList_append, List.append_assoc] at hlist
  have hblank : "emacs must name an interpreter program".toList =
      'e' :: "macs must name an interpreter program".toList := by decide
  have hlevel : "log_level must be one of ".toList = 'l' :: "og_level must be one of ".toList := by
    decide
  rw [hblank, hlevel] at hlist
  exact absurd (List.cons.inj hlist).1 (by decide)

/-- A problem can be read off its message. -/
theorem Problem.message_injective {problem other : Problem}
    (h : problem.message = other.message) : problem = other := by
  cases problem with
  | blankInterpreter =>
    cases other with
    | blankInterpreter => rfl
    | unknownLevel word => exact absurd h (blankInterpreter_message_ne word)
  | unknownLevel word =>
    cases other with
    | blankInterpreter => exact absurd h.symm (blankInterpreter_message_ne word)
    | unknownLevel word' =>
      have hlist := congrArg String.toList h
      simp only [message_unknownLevel, String.toList_append, List.append_assoc,
        List.append_cancel_left_eq, List.append_cancel_right_eq, String.toList_inj] at hlist
      rw [hlist]

end Config

/-- The world with one environment variable set. -/
def World.withVariable (world : World) (name value : String) : World :=
  { world with environment := world.environment.set (Utf8.encode name) (Utf8.encode value) }

namespace Settings

/-- A setting that some flags give, and so replace in the layers below. -/
inductive Gives (settings : Settings) : Config.Field → Prop where
  | emacs {program : String} (given : settings.emacs = some program) : Gives settings .emacs
  | library {path : Bytes} (given : settings.library = some path) : Gives settings .library
  | loadPath (given : settings.loadPath ≠ []) : Gives settings .loadPath
  | logLevel (given : settings.verbose = true) : Gives settings .logLevel

/-- Flags that give a setting make configurations equal that agree but for it. -/
theorem applyTo_eq_of_agreeBut {settings : Settings} {field : Config.Field}
    (given : settings.Gives field) {config other : Config}
    (agree : Config.AgreeBut field config other) :
    settings.applyTo config = settings.applyTo other := by
  obtain ⟨emacs, library, loadPath, logLevel⟩ := agree
  cases given with
  | emacs given =>
    simp [applyTo, overlay, Config.overlay, given, library, loadPath, logLevel]
  | library given =>
    simp [applyTo, overlay, Config.overlay, given, emacs, loadPath, logLevel]
  | loadPath given =>
    simp [applyTo, overlay, Config.overlay, given, emacs, library, logLevel]
  | logLevel given =>
    simp [applyTo, overlay, Config.overlay, given, emacs, library, loadPath]

/-- What reading one file in two worlds gives: the same, or two texts that say the same but
for one setting. -/
inductive SameReading (field : Config.Field) :
    Except SystemError String → Except SystemError String → Prop where
  | same (reading : Except SystemError String) : SameReading field reading reading
  | texts {source other : String} (same : Config.SameText field source other) :
    SameReading field (.ok source) (.ok other)

/-- Two worlds that differ, as far as a configuration is concerned, in one setting only: in
what the chosen file says about it and in its environment variable. -/
structure DifferOnly (settings : Settings) (directory : Bytes) (field : Config.Field)
    (world other : World) : Prop where
  chosen : settings.chosenFile? world directory = settings.chosenFile? other directory
  file : ∀ path, settings.chosenFile? world directory = some path →
    SameReading field (world.readText path) (other.readText path)
  environment : ∀ name, name ≠ field.variable →
    world.environment.text? name = other.environment.text? name

/-- The configuration of the layers below the flags. -/
def Below (settings : Settings) (world : World) (directory : Bytes) (below : Config) : Prop :=
  ∃ bottom, settings.Bottom world directory bottom ∧ world.environment.layer.Over bottom below

/-- The first problem that is found, without the flags or with them. -/
def firstProblem? (settings : Settings) (below : Config) : Option Config.Problem :=
  below.problem? <|> (settings.applyTo below).problem?

/-- The configuration below the flags is the bottom under the settings of the environment. -/
theorem below_iff {settings : Settings} {world : World} {directory : Bytes} {below : Config} :
    settings.Below world directory below ↔
      ∃ bottom, settings.readBottom world directory = .ok bottom ∧
        below = bottom.withVariables world.environment.text? := by
  simp only [Below, readBottom_eq_ok_iff, Environment.layer_over_iff]

/-- Over one bottom there is one configuration below the flags. -/
theorem below_iff_of_bottom {settings : Settings} {world : World} {directory : Bytes}
    {bottom : Config} (h : settings.Bottom world directory bottom) (below : Config) :
    settings.Below world directory below ↔
      below = bottom.withVariables world.environment.text? := by
  rw [below_iff, readBottom_eq_ok_iff.2 h]
  simp

/-- Over the layers below the flags, loading is two checks, of which the first problem is
reported. -/
theorem loadConfig_of_below {settings : Settings} {world : World} {directory : Bytes}
    {below : Config} (h : settings.Below world directory below) :
    settings.loadConfig world directory =
      match settings.firstProblem? below with
      | none => .ok (settings.applyTo below)
      | some problem => .error (.invalidConfig problem.message) := by
  obtain ⟨bottom, hbottom, hbelow⟩ := below_iff.1 h
  rw [loadConfig_eq, hbottom, ok_bind, ← hbelow, firstProblem?]
  cases hproblem : below.problem? with
  | some problem =>
    rw [Config.validated_eq_error_iff.2 ⟨problem, hproblem, rfl⟩, error_bind]
    rfl
  | none =>
    rw [Config.validated_eq_ok_iff.2 ⟨(Config.problem?_eq_none_iff below).1 hproblem, rfl⟩, ok_bind]
    cases hfinal : (settings.applyTo below).problem? with
    | none =>
      exact Config.validated_eq_ok_iff.2 ⟨(Config.problem?_eq_none_iff _).1 hfinal, rfl⟩
    | some problem => exact Config.validated_eq_error_iff.2 ⟨problem, hfinal, rfl⟩

/-- The layers below the flags agree in two worlds but for the setting in which these differ,
or there are none in either world, and the chosen file is to blame in both. -/
theorem DifferOnly.below {settings : Settings} {directory : Bytes} {field : Config.Field}
    {world other : World} (differ : settings.DifferOnly directory field world other) :
    (∃ below below', settings.Below world directory below ∧
      settings.Below other directory below' ∧ Config.AgreeBut field below below') ∨
    ∃ failure failure', settings.readBottom world directory = .error failure ∧
      settings.readBottom other directory = .error failure' ∧
      (failure = failure' ∨ ∃ message message',
        failure = .invalidConfig message ∧ failure' = .invalidConfig message') := by
  have raised {bottom bottom' : Config} (hbottom : settings.readBottom world directory = .ok bottom)
      (hbottom' : settings.readBottom other directory = .ok bottom')
      (agree : Config.AgreeBut field bottom bottom') :
      ∃ below below', settings.Below world directory below ∧
        settings.Below other directory below' ∧ Config.AgreeBut field below below' :=
    ⟨_, _, below_iff.2 ⟨bottom, hbottom, rfl⟩, below_iff.2 ⟨bottom', hbottom', rfl⟩,
      agree.withVariables differ.environment⟩
  cases hchosen : settings.chosenFile? world directory with
  | none =>
    have hchosen' : settings.chosenFile? other directory = none := by rw [← differ.chosen, hchosen]
    refine .inl (raised ?_ ?_ (.refl field Config.default))
    · rw [readBottom, hchosen]
    · rw [readBottom, hchosen']
  | some path =>
    have hchosen' : settings.chosenFile? other directory = some path := by
      rw [← differ.chosen, hchosen]
    have hread : settings.readBottom world directory = Config.readFile world path := by
      rw [readBottom, hchosen]
    have hread' : settings.readBottom other directory = Config.readFile other path := by
      rw [readBottom, hchosen']
    rw [hread, hread'] at raised
    rw [hread, hread']
    have hreading := differ.file path hchosen
    generalize hresult : world.readText path = result at hreading
    generalize hresult' : other.readText path = result' at hreading
    cases hreading with
    | same =>
      have hsame : Config.readFile other path = Config.readFile world path := by
        rw [Config.readFile, Config.readFile, hresult, hresult']
      cases hfile : Config.readFile world path with
      | ok bottom => exact .inl (raised hfile (hsame.trans hfile) (.refl field bottom))
      | error failure => exact .inr ⟨failure, failure, rfl, hsame.trans hfile, .inl rfl⟩
    | @texts source source' same =>
      rcases Config.ofFileText_of_sameText same with
        ⟨bottom, bottom', hparse, hparse', agree⟩ | ⟨message, message', hparse, hparse'⟩
      · exact .inl (raised (Config.readFile_eq_ok_iff.2 ⟨source, hresult, hparse⟩)
          (Config.readFile_eq_ok_iff.2 ⟨source', hresult', hparse'⟩) agree)
      · obtain ⟨shown, hshown⟩ := Config.readFile_of_refused hresult hparse
        obtain ⟨shown', hshown'⟩ := Config.readFile_of_refused hresult' hparse'
        exact .inr ⟨_, _, hshown, hshown', .inr ⟨shown, shown', rfl, rfl⟩⟩

/-- Over layers that the flags make the same of, loading gives the same result exactly when the
first problem is the same. -/
theorem loadConfig_eq_iff_of_below {settings : Settings} {directory : Bytes} {world other : World}
    {below below' : Config} (h : settings.Below world directory below)
    (h' : settings.Below other directory below')
    (happly : settings.applyTo below = settings.applyTo below') :
    settings.loadConfig world directory = settings.loadConfig other directory ↔
      settings.firstProblem? below = settings.firstProblem? below' := by
  rw [loadConfig_of_below h, loadConfig_of_below h', happly]
  constructor
  · intro hsame
    cases hfirst : settings.firstProblem? below <;>
      cases hfirst' : settings.firstProblem? below' <;> simp only [hfirst, hfirst'] at hsame
    · rfl
    · cases hsame
    · cases hsame
    · rw [Config.Problem.message_injective (Failure.invalidConfig.inj (Except.error.inj hsame))]
  · intro hfirst
    rw [hfirst]

/-- Where the chosen file is to blame, there are no layers below the flags, and loading fails. -/
theorem loadConfig_of_blame {settings : Settings} {world : World} {directory : Bytes}
    {failure : Failure} (h : settings.readBottom world directory = .error failure) :
    (∀ below, ¬ settings.Below world directory below) ∧
      settings.loadConfig world directory = .error failure := by
  constructor
  · intro below hbelow
    obtain ⟨bottom, hbottom, -⟩ := below_iff.1 hbelow
    rw [h] at hbottom
    cases hbottom
  · rw [loadConfig_eq, h]
    rfl

/-- In two worlds that differ in one setting only, a flag that gives this setting decides about
it: the layers below the flags come to the same configuration in the end. Loading gives the same
result exactly when the first problem is the same, in particular if these layers are valid in
both worlds. If there are no such layers because of the chosen file, loading fails in both. -/
theorem loadConfig_of_differOnly {settings : Settings} {directory : Bytes} {field : Config.Field}
    {world other : World} (given : settings.Gives field)
    (differ : settings.DifferOnly directory field world other) :
    (∃ below below', settings.Below world directory below ∧
      settings.Below other directory below' ∧
      settings.applyTo below = settings.applyTo below' ∧
      (settings.loadConfig world directory = settings.loadConfig other directory ↔
        settings.firstProblem? below = settings.firstProblem? below') ∧
      (below.Valid → below'.Valid →
        settings.loadConfig world directory = settings.loadConfig other directory)) ∨
    ((∀ below, ¬ settings.Below world directory below) ∧
      (∀ below, ¬ settings.Below other directory below) ∧
      ∃ failure failure', settings.loadConfig world directory = .error failure ∧
        settings.loadConfig other directory = .error failure' ∧
        (failure = failure' ∨
          ∃ message message', failure = .invalidConfig message ∧
            failure' = .invalidConfig message')) := by
  rcases differ.below with ⟨below, below', hbelow, hbelow', agree⟩ |
    ⟨failure, failure', hread, hread', alike⟩
  · have happly := applyTo_eq_of_agreeBut given agree
    have hiff := loadConfig_eq_iff_of_below hbelow hbelow' happly
    refine .inl ⟨below, below', hbelow, hbelow', happly, hiff, ?_⟩
    intro valid valid'
    rw [hiff, firstProblem?, firstProblem?, (Config.problem?_eq_none_iff below).2 valid,
      (Config.problem?_eq_none_iff below').2 valid', happly]
  · obtain ⟨absent, hfails⟩ := loadConfig_of_blame hread
    obtain ⟨absent', hfails'⟩ := loadConfig_of_blame hread'
    exact .inr ⟨absent, absent', failure, failure', hfails, hfails', alike⟩

/-- Setting the variable of a setting makes a world that differs in this setting only. -/
theorem differOnly_withVariable (settings : Settings) (directory : Bytes) (field : Config.Field)
    (world : World) (value : String) :
    settings.DifferOnly directory field world (world.withVariable field.variable value) := by
  refine ⟨rfl, fun path _ => .same _, ?_⟩
  intro name ne
  have hne : Utf8.encode name ≠ Utf8.encode field.variable :=
    fun heq => ne (Utf8.encode_injective heq)
  simp only [World.withVariable, Environment.text?, Environment.value?,
    Environment.get?_set_of_ne _ _ hne]

/-- The root directory. -/
def root : Bytes := [Path.slash]

/-- A world without variables and files. -/
def bare : World := ⟨⟨[]⟩, ⟨[]⟩, ⟨[], 0⟩⟩

/-- A world without variables whose only file is a configuration file at the root. -/
def onlyFile (source : String) : World :=
  ⟨⟨[([Utf8.encode Config.fileName], .file (Utf8.encode source) false)]⟩, ⟨[]⟩, ⟨[], 0⟩⟩

set_option maxRecDepth 2000 in
/-- Under a flag for the interpreter, two files that name different ones are loaded alike. -/
theorem loadConfig_of_two_interpreters :
    Gives { emacs := some "emacs-30" } .emacs ∧
    DifferOnly { emacs := some "emacs-30" } root .emacs (onlyFile "emacs='a'")
      (onlyFile "emacs='b'") ∧
    loadConfig { emacs := some "emacs-30" } (onlyFile "emacs='a'") root =
      loadConfig { emacs := some "emacs-30" } (onlyFile "emacs='b'") root := by
  have hchosen : chosenFile? { emacs := some "emacs-30" } (onlyFile "emacs='a'") root =
      some (Config.filePath root) := by decide +kernel
  have hchosen' : chosenFile? { emacs := some "emacs-30" } (onlyFile "emacs='b'") root =
      some (Config.filePath root) := by decide +kernel
  have htext : (onlyFile "emacs='a'").readText (Config.filePath root) = .ok "emacs='a'" := by cbv
  have htext' : (onlyFile "emacs='b'").readText (Config.filePath root) = .ok "emacs='b'" := by cbv
  have hentries : Toml.entriesOf? "emacs='a'" = some [("emacs", .leaf ⟨6, 9⟩ (.string "a"))] := by
    cbv
  have hentries' : Toml.entriesOf? "emacs='b'" = some [("emacs", .leaf ⟨6, 9⟩ (.string "b"))] := by
    cbv
  have given : Gives { emacs := some "emacs-30" } .emacs := .emacs rfl
  have differ : DifferOnly { emacs := some "emacs-30" } root .emacs (onlyFile "emacs='a'")
      (onlyFile "emacs='b'") := by
    refine ⟨hchosen.trans hchosen'.symm, ?_, fun _ _ => rfl⟩
    intro path hpath
    cases hchosen.symm.trans hpath
    rw [htext, htext']
    exact .texts ⟨_, _, hentries, hentries',
      .cons ⟨rfl, .inr ⟨rfl, ⟨"a", rfl⟩, "b", rfl⟩⟩ .nil⟩
  have hparse : Config.ofFileText "emacs='a'" = .ok { emacs := "a" } := by
    rw [Config.ofFileText, hentries]
    rfl
  have hparse' : Config.ofFileText "emacs='b'" = .ok { emacs := "b" } := by
    rw [Config.ofFileText, hentries']
    rfl
  have hbelow := below_iff_of_bottom (.file hchosen htext hparse)
  have hbelow' := below_iff_of_bottom (.file hchosen' htext' hparse')
  refine ⟨given, differ, ?_⟩
  rcases loadConfig_of_differOnly given differ with
    ⟨below, below', h, h', -, -, hvalid⟩ | ⟨absent, -⟩
  · rw [hbelow] at h
    rw [hbelow'] at h'
    subst h h'
    exact hvalid ((Config.problem?_eq_none_iff _).1 (by decide))
      ((Config.problem?_eq_none_iff _).1 (by decide))
  · exact absurd ((hbelow _).2 rfl) (absent _)

/-- Under a flag for the interpreter and one for the level, a blank interpreter and an unknown
level in the environment are refused, though neither would be used. -/
theorem loadConfig_of_replaced_problems :
    DifferOnly { emacs := some "emacs-30" } root .emacs bare (bare.withVariable emacsVariable " ") ∧
    loadConfig { emacs := some "emacs-30" } bare root = .ok { emacs := "emacs-30" } ∧
    loadConfig { emacs := some "emacs-30" } (bare.withVariable emacsVariable " ") root =
      .error (.invalidConfig Config.Problem.blankInterpreter.message) ∧
    DifferOnly { verbose := true } root .logLevel bare (bare.withVariable logVariable "loud") ∧
    loadConfig { verbose := true } bare root = .ok { logLevel := "debug" } ∧
    loadConfig { verbose := true } (bare.withVariable logVariable "loud") root =
      .error (.invalidConfig (Config.Problem.unknownLevel "loud").message) := by
  have hbare {settings : Settings} (h : settings.chosenFile? bare root = none) :
      settings.Below bare root {} := (below_iff_of_bottom (.defaults h) _).2 (by decide)
  have hemacs : Below { emacs := some "emacs-30" } (bare.withVariable emacsVariable " ") root
      { emacs := " " } := (below_iff_of_bottom (.defaults (by decide)) _).2 (by decide)
  have hlog : Below { verbose := true } (bare.withVariable logVariable "loud") root
      { logLevel := "loud" } := (below_iff_of_bottom (.defaults (by decide)) _).2 (by decide)
  refine ⟨differOnly_withVariable _ _ .emacs _ _, ?_, ?_,
    differOnly_withVariable _ _ .logLevel _ _, ?_, ?_⟩
  · rw [loadConfig_of_below (hbare (by decide))]
    rfl
  · rw [loadConfig_of_below hemacs]
    rfl
  · rw [loadConfig_of_below (hbare (by decide))]
    rfl
  · rw [loadConfig_of_below hlog]
    rfl

end Settings

end EmacsBatch
