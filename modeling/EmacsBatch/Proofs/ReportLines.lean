import EmacsBatch.Proofs.Endings
import EmacsBatch.Proofs.SystemErrors

/-!
# The report of a hook

A hook that fails writes its report to the standard error after all that its child wrote, and
a hook that succeeds writes nothing there itself. The report is one line exactly if no text that
the failure quotes breaks a line. Paths, the name of the interpreter and the word for the log
level are quoted as they were given, and an excerpt of the configuration file always goes over
several lines, whether the file is malformed or gives a setting a value of the wrong shape.
-/

namespace EmacsBatch

/-- The bytes that an effect adds to the standard error on the command's own account. -/
def Effect.ownStderrBytes : Effect → Bytes
  | .stderr text => Utf8.encode text
  | _ => []

/-- The bytes that a command itself wrote to its standard error when nothing is logged. -/
def ownStderrOf (trace : List Effect) : Bytes := trace.flatMap Effect.ownStderrBytes

/-- Whether a command writes nothing itself by an effect, and keeps nothing from its outputs. -/
def Effect.isQuiet : Effect → Bool
  | .event _ | .logging _ | .call _ | .child _ => true
  | _ => false

/-- A trace in which only children write. -/
def Quiet (trace : List Effect) : Prop := ∀ effect ∈ trace, effect.isQuiet = true

namespace Quiet

/-- Quiet traces that follow each other are quiet. -/
theorem append {first second : List Effect} (hfirst : Quiet first) (hsecond : Quiet second) :
    Quiet (first ++ second) := List.forall_mem_append.2 ⟨hfirst, hsecond⟩

/-- One more quiet effect keeps a trace quiet. -/
theorem cons {effect : Effect} {trace : List Effect} (h : effect.isQuiet = true)
    (rest : Quiet trace) : Quiet (effect :: trace) := List.forall_mem_cons.2 ⟨h, rest⟩

/-- What shows in the log only is quiet. -/
theorem of_silent {trace : List Effect} (h : Silent trace) : Quiet trace := by
  intro effect heffect
  have hlog := h effect heffect
  cases effect <;> first | rfl | cases hlog

/-- In a quiet trace the command itself writes nothing to the standard error. -/
theorem ownStderrOf_eq {trace : List Effect} (h : Quiet trace) : ownStderrOf trace = [] := by
  rw [ownStderrOf, List.flatMap_eq_nil_iff]
  intro effect heffect
  have hquiet := h effect heffect
  cases effect <;> first | rfl | cases hquiet

/-- In a quiet trace the standard error is that of the children. -/
theorem stderrOf_eq {trace : List Effect} (h : Quiet trace) :
    stderrOf trace = (childrenOf trace).flatMap (·.program.stderr) := by
  induction trace with
  | nil => rfl
  | cons effect rest ih =>
    obtain ⟨hquiet, hrest⟩ := List.forall_mem_cons.1 h
    have htail := ih hrest
    cases effect with
    | event | logging | call => exact htail
    | child child => exact congrArg (child.program.stderr ++ ·) htail
    | capturedChild | stdout | stderr => cases hquiet

end Quiet

/-- The standard errors of two traces are written one after the other. -/
@[simp]
theorem stderrOf_append (first second : List Effect) :
    stderrOf (first ++ second) = stderrOf first ++ stderrOf second :=
  List.flatMap_append

/-- What a command itself writes in two traces is written one after the other. -/
@[simp]
theorem ownStderrOf_append (first second : List Effect) :
    ownStderrOf (first ++ second) = ownStderrOf first ++ ownStderrOf second :=
  List.flatMap_append

/-- A runner writes nothing itself. -/
theorem Runner.quiet_run (runner : Runner) (world : World) (invocation : Invocation) :
    Quiet (runner.run world invocation).trace := by
  cases runner with
  | recorder answer =>
    cases answer <;> exact .cons rfl (.of_silent .nil)
  | process =>
    cases hpath : Lookup.locate world invocation.program with
    | error error =>
      obtain ⟨-, after, htrace, silent⟩ := process_run_of_notFound hpath
      rw [htrace]
      exact .cons rfl (.of_silent silent)
    | ok path =>
      cases hstart : Launch.start world path invocation.arguments invocation.assignments with
      | error cause =>
        obtain ⟨-, after, htrace, silent⟩ := process_run_of_notStarted hpath hstart
        rw [htrace]
        exact .cons rfl (.of_silent silent)
      | ok child =>
        obtain ⟨-, before, after, htrace, hbefore, hafter⟩ := process_run_of_started hpath hstart
        rw [htrace]
        exact .cons rfl (.append (.of_silent hbefore) (.cons rfl (.of_silent hafter)))

/-- Up to its report a hook writes nothing itself. -/
theorem Hook.quiet_attempt (hook : Hook) (arguments : HookArguments) (fallback : Bytes)
    (runner : Runner) (world : World) :
    Quiet (hook.attempt arguments fallback runner world).trace := by
  rcases arguments.prepared_or_unprepared fallback world with ⟨context, prepared⟩ | missing
  · by_cases files : arguments.files = []
    · exact .of_silent (hook.attempt_of_noFiles runner prepared files).2
    · obtain ⟨-, before, htrace, silent⟩ := hook.attempt_of_files runner prepared files
      rw [htrace]
      exact .append (.of_silent silent) (runner.quiet_run world _)
  · exact .of_silent (hook.attempt_of_unprepared runner missing).2

/-- A report: one line that says that there is an error. -/
def IsReport (bytes : Bytes) : Prop :=
  ∃ line, lineFeed ∉ line ∧ bytes = Utf8.encode "Error: " ++ line ++ [lineFeed]

/-- The bytes of two texts follow each other. -/
theorem Utf8.encode_append (first second : String) :
    encode (first ++ second) = encode first ++ encode second := by
  rw [encode, String.toList_append]
  exact List.flatMap_append

/-- What is written for a message is one line exactly if the message does not break a line. -/
theorem isReport_reportLine_iff {message : String} :
    IsReport (Utf8.encode (Hook.reportLine message)) ↔ ¬ BreaksLine message := by
  have hbytes : Utf8.encode (Hook.reportLine message) =
      Utf8.encode "Error: " ++ Utf8.encode message ++ [lineFeed] := by
    rw [Hook.reportLine, Utf8.encode_append, Utf8.encode_append]
    rfl
  rw [hbytes, ← lineFeed_mem_encode_iff]
  constructor
  · rintro ⟨line, hline, heq⟩
    rwa [List.append_cancel_left (List.append_cancel_right heq)]
  · intro h
    exact ⟨_, h, rfl⟩

/-- What a runner of processes reports breaks a line exactly if the name of the program does. -/
theorem Runner.breaksLine_of_process {world : World} {invocation : Invocation} {failure : Failure}
    (h : (process.run world invocation).value = .error failure) :
    BreaksLine failure.message ↔ lineFeed ∈ invocation.program := by
  rw [Failure.breaksLine_message_iff, ← breaksLine_lossy_iff]
  cases hpath : Lookup.locate world invocation.program with
  | error error =>
    rw [(process_run_of_notFound hpath).1] at h
    cases h
    simp [Failure.quoted]
  | ok path =>
    cases hstart : Launch.start world path invocation.arguments invocation.assignments with
    | error cause =>
      rw [(process_run_of_notStarted hpath hstart).1] at h
      cases h
      simp [Failure.quoted, (Launch.isOwn_of_start hstart).not_breaksLine]
    | ok child =>
      rw [(process_run_of_started hpath hstart).1] at h
      cases hending : child.program.ending with
      | exit status =>
        rw [hending, outcome] at h
        split at h
        · cases h
        · cases h
          simp [Failure.quoted]
      | signal number =>
        rw [hending] at h
        cases h
        simp [Failure.quoted]

/-- A file that is not well formed is refused with a message of its own. -/
theorem Config.ofFileText_of_malformed {source : String} (h : Toml.entriesOf? source = none) :
    ofFileText source = .error (Toml.malformedMessage source) := by
  rw [ofFileText, h]

/-- A file that describes no configuration is refused with an excerpt. -/
theorem Config.breaksLine_of_ofFileText {source message : String}
    (refused : ofFileText source = .error message) : BreaksLine message := by
  cases hentries : Toml.entriesOf? source with
  | none =>
    rw [ofFileText_of_malformed hentries] at refused
    rw [← Except.error.inj refused]
    exact Toml.breaksLine_excerpt _ _ _
  | some entries =>
    simp only [ofFileText, hentries] at refused
    split at refused
    · cases refused
    · rw [← Except.error.inj refused]
      exact Toml.breaksLine_excerpt _ _ _

namespace Settings

variable {settings : Settings} {world : World} {directory : Bytes}

/-- The chosen configuration file can be read and is not well formed. -/
def Malformed (settings : Settings) (world : World) (directory : Bytes) : Prop :=
  ∃ path source, settings.chosenFile? world directory = some path ∧
    world.readText path = .ok source ∧ Toml.entriesOf? source = none

/-- Why the report of a configuration that cannot be loaded goes over several lines: the file is
malformed, a value in it does not have the shape of its setting, or the word for the level that
the layers below the flags give is unknown and breaks a line itself. -/
inductive ReportBreaks (settings : Settings) (world : World) (directory : Bytes) : Prop where
  | malformed (file : settings.Malformed world directory) : ReportBreaks settings world directory
  | shape {path : Bytes} {source message : String} {entries : Toml.Entries}
    (chosen : settings.chosenFile? world directory = some path)
    (text : world.readText path = .ok source) (wellFormed : Toml.entriesOf? source = some entries)
    (refused : Config.ofFileText source = .error message) : ReportBreaks settings world directory
  | level {below : Config} {word : String} (layers : settings.Below world directory below)
    (problem : below.problem? = some (.unknownLevel word)) (breaks : BreaksLine word) :
    ReportBreaks settings world directory

/-- Flags over a valid configuration leave the level known. -/
theorem problem?_applyTo_ne_unknownLevel {below : Config} (h : below.problem? = none)
    (word : String) : (settings.applyTo below).problem? ≠ some (.unknownLevel word) := by
  obtain ⟨-, level, hbelow⟩ := (Config.problem?_eq_none_iff below).1 h
  have hknown : (Log.Level.ofName? (settings.applyTo below).logLevel).isNone = false := by
    rw [applyTo, Config.overlay, overlay]
    cases settings.verbose with
    | true => rfl
    | false => simp [hbelow]
  rw [Config.problem?, hknown]
  split <;> simp

/-- The first problem is one of the layers below the flags, or one with the flags if there is none
below. -/
theorem firstProblem?_eq_some_iff {below : Config} {problem : Config.Problem} :
    settings.firstProblem? below = some problem ↔ below.problem? = some problem ∨
      below.problem? = none ∧ (settings.applyTo below).problem? = some problem := by
  rw [firstProblem?]
  cases below.problem? <;> simp

/-- A message about the configuration breaks a line exactly if what it says is wrong does. -/
theorem breaksLine_invalidConfig_iff {message : String} :
    BreaksLine (Failure.invalidConfig message).message ↔ BreaksLine message := by
  rw [Failure.breaksLine_message_iff]
  simp [Failure.quoted]

/-- A file that is refused breaks the report: it is malformed, or one of its values has the wrong
shape. -/
theorem ReportBreaks.of_refused {path : Bytes} {source message : String}
    (chosen : settings.chosenFile? world directory = some path)
    (text : world.readText path = .ok source)
    (refused : Config.ofFileText source = .error message) :
    settings.ReportBreaks world directory := by
  cases hentries : Toml.entriesOf? source with
  | none => exact .malformed ⟨path, source, chosen, text, hentries⟩
  | some entries => exact .shape chosen text hentries refused

/-- What breaks the report of a configuration is a file that is refused, or the word for the level
in the layers below the flags. -/
theorem reportBreaks_iff : settings.ReportBreaks world directory ↔
    (∃ path source message, settings.chosenFile? world directory = some path ∧
      world.readText path = .ok source ∧ Config.ofFileText source = .error message) ∨
    ∃ below word, settings.Below world directory below ∧
      below.problem? = some (.unknownLevel word) ∧ BreaksLine word := by
  constructor
  · intro h
    cases h with
    | malformed file =>
      obtain ⟨path, source, chosen, text, hnone⟩ := file
      exact .inl ⟨path, source, _, chosen, text, Config.ofFileText_of_malformed hnone⟩
    | shape chosen text wellFormed refused => exact .inl ⟨_, _, _, chosen, text, refused⟩
    | level layers problem breaks => exact .inr ⟨_, _, layers, problem, breaks⟩
  · intro h
    rcases h with ⟨path, source, message, chosen, text, refused⟩ | ⟨below, word, layers, problem,
      breaks⟩
    · exact .of_refused chosen text refused
    · exact .level layers problem breaks

/-- A file that is refused is to blame for the configuration. -/
theorem readBottom_of_refused {path : Bytes} {source message : String}
    (chosen : settings.chosenFile? world directory = some path)
    (text : world.readText path = .ok source)
    (refused : Config.ofFileText source = .error message) :
    ∃ shown, settings.readBottom world directory = .error (.invalidConfig shown) := by
  rw [readBottom, chosen]
  exact Config.readFile_of_refused text refused

/-- Where the chosen file is to blame, the report goes over several lines if the file is read and
refused. -/
theorem breaksLine_of_blame {failure : Failure}
    (blamed : settings.readBottom world directory = .error failure) :
    BreaksLine failure.message ↔ settings.ReportBreaks world directory := by
  obtain ⟨nothingBelow, -⟩ := loadConfig_of_blame blamed
  rw [readBottom] at blamed
  split at blamed
  · cases blamed
  rename_i path chosen
  cases htext : world.readText path with
  | error cause =>
    rw [Config.readFile_eq_io_iff.2 htext] at blamed
    cases blamed
    have hmessage : ¬ BreaksLine (Failure.io cause).message := by
      rw [Failure.breaksLine_message_iff]
      simp [Failure.quoted, (World.isOwn_of_readText htext).not_breaksLine]
    refine iff_of_false hmessage ?_
    rw [reportBreaks_iff]
    rintro (⟨path', source, message, chosen', text, -⟩ | ⟨below, word, layers, -, -⟩)
    · cases chosen.symm.trans chosen'
      cases htext.symm.trans text
    · exact nothingBelow _ layers
  | ok source =>
    cases hparse : Config.ofFileText source with
    | ok config =>
      rw [Config.readFile_eq_ok_iff.2 ⟨source, htext, hparse⟩] at blamed
      cases blamed
    | error message =>
      have hmessage := Config.breaksLine_of_ofFileText hparse
      rw [Config.readFile, htext] at blamed
      simp only [hparse] at blamed
      cases blamed
      rw [breaksLine_invalidConfig_iff, breaksLine_append]
      exact iff_of_true (.inr hmessage) (.of_refused chosen htext hparse)

/-- Over layers below the flags, the report goes over several lines if these layers give a word
for the level that does. -/
theorem breaksLine_of_below {below : Config} {problem : Config.Problem}
    (layers : settings.Below world directory below)
    (first : settings.firstProblem? below = some problem) :
    BreaksLine problem.message ↔ settings.ReportBreaks world directory := by
  obtain ⟨bottom, hbottom, hbelow⟩ := below_iff.1 layers
  have unique {other : Config} (h : settings.Below world directory other) : other = below := by
    obtain ⟨bottom', hbottom', rfl⟩ := below_iff.1 h
    cases hbottom.symm.trans hbottom'
    exact hbelow.symm
  rw [Config.Problem.breaksLine_message_iff, reportBreaks_iff]
  constructor
  · rintro ⟨word, rfl, hword⟩
    -- Flags give a known level or none, so an unknown one comes from below them.
    rcases firstProblem?_eq_some_iff.1 first with hproblem | ⟨hnone, habove⟩
    · exact .inr ⟨below, word, layers, hproblem, hword⟩
    · exact absurd habove (problem?_applyTo_ne_unknownLevel hnone word)
  · rintro (⟨path, source, message, chosen, text, refused⟩ | ⟨other, word, layers', hproblem,
      breaks⟩)
    · obtain ⟨shown, hshown⟩ := readBottom_of_refused chosen text refused
      cases hbottom.symm.trans hshown
    · rw [unique layers'] at hproblem
      rw [firstProblem?_eq_some_iff.2 (.inl hproblem)] at first
      exact ⟨_, (Option.some.inj first).symm, breaks⟩

/-- The report of a configuration that cannot be loaded goes over several lines for one of these
reasons. -/
theorem breaksLine_of_loadConfig {failure : Failure}
    (fails : settings.loadConfig world directory = .error failure) :
    BreaksLine failure.message ↔ settings.ReportBreaks world directory := by
  cases hread : settings.readBottom world directory with
  | error blamed =>
    cases (loadConfig_of_blame hread).2.symm.trans fails
    exact breaksLine_of_blame hread
  | ok bottom =>
    have layers := below_iff.2 ⟨bottom, hread, rfl⟩
    rw [loadConfig_of_below layers] at fails
    split at fails
    · cases fails
    · rename_i problem first
      cases fails
      rw [breaksLine_invalidConfig_iff]
      exact breaksLine_of_below layers first

/-- A configuration whose report goes over several lines is not loaded. -/
theorem ReportBreaks.not_loads (h : settings.ReportBreaks world directory) (config : Config) :
    settings.loadConfig world directory ≠ .ok config := by
  intro loads
  rcases reportBreaks_iff.1 h with ⟨path, source, message, chosen, text, refused⟩ | ⟨below, word,
    layers, problem, -⟩
  · obtain ⟨shown, blamed⟩ := readBottom_of_refused chosen text refused
    cases loads.symm.trans (loadConfig_of_blame blamed).2
  · rw [loadConfig_of_below layers, firstProblem?, problem] at loads
    cases loads

end Settings

/-- Why the report of a hook goes over several lines: the report is about the configuration and
does, a path that was searched for the helper library or the name of the interpreter breaks a
line, or a text does that the answer of a recorder quotes. -/
inductive HookArguments.ReportBreaks (arguments : HookArguments) (fallback : Bytes)
    (runner : Runner) (world : World) : Prop where
  | configuration {directory : Bytes} (here : world.currentDirectory = .ok directory)
    (breaks : arguments.settings.ReportBreaks world directory) :
    ReportBreaks arguments fallback runner world
  | library {directory : Bytes} {config : Config} {path : Bytes}
    (here : world.currentDirectory = .ok directory)
    (loads : arguments.settings.loadConfig world directory = .ok config)
    (missing : world.NoLibrary config.library fallback)
    (searched : path ∈ config.library.toList ++ [fallback]) (breaks : lineFeed ∈ path) :
    ReportBreaks arguments fallback runner world
  | interpreter {context : Context} (prepared : arguments.Prepared fallback world context)
    (files : arguments.files ≠ []) (processes : runner = .process)
    (breaks : BreaksLine context.emacs) : ReportBreaks arguments fallback runner world
  | answer {context : Context} {failure : Failure} {text : String}
    (prepared : arguments.Prepared fallback world context) (files : arguments.files ≠ [])
    (told : runner = .recorder (some failure)) (quoted : text ∈ failure.quoted)
    (breaks : BreaksLine text) : ReportBreaks arguments fallback runner world

namespace Hook

variable {hook : Hook} {arguments : HookArguments} {fallback : Bytes} {runner : Runner}
  {world : World} {failure : Failure}

/-- A failure of the first stages is the failure of the attempt. -/
theorem attempt_of_prepare_error (h : (arguments.prepare fallback world).value = .error failure) :
    (hook.attempt arguments fallback runner world).value = .error failure := by
  simp only [attempt_eq, Traced.value_bind, h, Traced.value_pure]

/-- The report of a hook that is not prepared goes over several lines for one of these reasons. -/
theorem breaksLine_of_unprepared (missing : arguments.Unprepared fallback world)
    (fails : (hook.attempt arguments fallback runner world).value = .error failure) :
    BreaksLine failure.message ↔ arguments.ReportBreaks fallback runner world := by
  have unprepared := missing.not_prepared
  have blamed {blamed : Failure} (h : (arguments.prepare fallback world).value = .error blamed) :
      failure = blamed :=
    Except.error.inj (fails.symm.trans (attempt_of_prepare_error h))
  cases missing with
  | @directory cause gone =>
    have hprepare : (arguments.prepare fallback world).value = .error (.io cause) := by
      simp [HookArguments.prepare, gone]
    obtain rfl := blamed hprepare
    rw [Failure.breaksLine_message_iff]
    refine iff_of_false ?_ ?_
    · simp [Failure.quoted, (World.isOwn_of_currentDirectory gone).not_breaksLine]
    · rintro (⟨here, -⟩ | ⟨here, -, -, -, -⟩ | ⟨prepared, -, -, -⟩ | ⟨prepared, -, -, -, -⟩)
      · cases gone.symm.trans here
      · cases gone.symm.trans here
      · exact unprepared _ prepared
      · exact unprepared _ prepared
  | @config directory refused here failsToLoad =>
    have hprepare : (arguments.prepare fallback world).value = .error refused := by
      simp [HookArguments.prepare, here, failsToLoad]
    obtain rfl := blamed hprepare
    rw [Settings.breaksLine_of_loadConfig failsToLoad]
    constructor
    · exact .configuration here
    · rintro (⟨here', breaks⟩ | ⟨here', loads, -, -, -⟩ | ⟨prepared, -, -, -⟩ |
        ⟨prepared, -, -, -, -⟩)
      · cases here.symm.trans here'
        exact breaks
      · cases here.symm.trans here'
        cases failsToLoad.symm.trans loads
      · exact (unprepared _ prepared).elim
      · exact (unprepared _ prepared).elim
  | @library directory config here loads noLibrary =>
    have hvalue := LibraryLocator.resolve_of_noLibrary noLibrary
    have hprepare : (arguments.prepare fallback world).value =
        .error (.libraryNotFound (config.library.toList ++ [fallback])) := by
      simp [HookArguments.prepare, here, loads, Context.resolve, Config.locator, hvalue]
    obtain rfl := blamed hprepare
    rw [Failure.breaksLine_message_iff]
    simp only [Failure.quoted, List.mem_map, exists_exists_and_eq_and, breaksLine_lossy_iff]
    constructor
    · rintro ⟨path, searched, breaks⟩
      exact .library here loads noLibrary searched breaks
    · rintro (⟨here', breaks⟩ | ⟨here', loads', -, searched, breaks⟩ | ⟨prepared, -, -, -⟩ |
        ⟨prepared, -, -, -, -⟩)
      · cases here.symm.trans here'
        exact (breaks.not_loads config loads).elim
      · cases here.symm.trans here'
        cases loads.symm.trans loads'
        exact ⟨_, searched, breaks⟩
      · exact (unprepared _ prepared).elim
      · exact (unprepared _ prepared).elim

/-- The report of a hook that is prepared goes over several lines for one of these reasons. -/
theorem breaksLine_of_prepared {context : Context}
    (prepared : arguments.Prepared fallback world context)
    (fails : (hook.attempt arguments fallback runner world).value = .error failure) :
    BreaksLine failure.message ↔ arguments.ReportBreaks fallback runner world := by
  have files : arguments.files ≠ [] := by
    intro none
    rw [(hook.attempt_of_noFiles runner prepared none).1] at fails
    cases fails
  rw [(hook.attempt_of_files runner prepared files).1] at fails
  -- What goes wrong before the runner is called does not go wrong here.
  have notEarlier : arguments.ReportBreaks fallback runner world →
      (runner = .process ∧ BreaksLine context.emacs) ∨
        ∃ answer text, runner = .recorder (some answer) ∧ text ∈ answer.quoted ∧
          BreaksLine text := by
    rintro (⟨here, breaks⟩ | ⟨here, loads, missing, -, -⟩ | ⟨prepared', -, processes, breaks⟩ |
      ⟨-, -, told, quoted, breaks⟩)
    · obtain ⟨here', loads, -⟩ := prepared
      cases here.symm.trans here'
      exact (breaks.not_loads _ loads).elim
    · exact (HookArguments.Unprepared.not_prepared (.library here loads missing) _ prepared).elim
    · cases prepared.unique prepared'
      exact .inl ⟨processes, breaks⟩
    · exact .inr ⟨_, _, told, quoted, breaks⟩
  cases runner with
  | process =>
    have hprogram : (hook.invocation context arguments.files).program =
        Utf8.encode context.emacs := rfl
    rw [Runner.breaksLine_of_process fails, hprogram, lineFeed_mem_encode_iff]
    constructor
    · exact .interpreter prepared files rfl
    · intro h
      rcases notEarlier h with ⟨-, breaks⟩ | ⟨answer, text, told, -, -⟩
      · exact breaks
      · cases told
  | recorder answer =>
    cases answer with
    | none => cases fails
    | some answer =>
      cases fails
      rw [Failure.breaksLine_message_iff]
      constructor
      · rintro ⟨text, quoted, breaks⟩
        exact .answer prepared files rfl quoted breaks
      · intro h
        rcases notEarlier h with ⟨processes, -⟩ | ⟨other, text, told, quoted, breaks⟩
        · cases processes
        · cases told
          exact ⟨text, quoted, breaks⟩

/-- A hook writes the standard error of its child and then what it writes itself. -/
theorem stderrOf_execute (hook : Hook) (arguments : HookArguments) (fallback : Bytes)
    (runner : Runner) (world : World) :
    stderrOf (hook.execute arguments fallback runner world).trace =
      (childrenOf (hook.execute arguments fallback runner world).trace).flatMap
          (·.program.stderr) ++
        ownStderrOf (hook.execute arguments fallback runner world).trace := by
  have quiet := hook.quiet_attempt arguments fallback runner world
  rw [childrenOf_execute, ← quiet.stderrOf_eq, execute_trace, stderrOf_append, ownStderrOf_append,
    quiet.ownStderrOf_eq, List.nil_append]
  cases (hook.attempt arguments fallback runner world).value <;> rfl

/-- A hook that succeeds writes nothing itself. -/
theorem ownStderrOf_execute_of_ok
    (h : (hook.attempt arguments fallback runner world).value = .ok ()) :
    ownStderrOf (hook.execute arguments fallback runner world).trace = [] := by
  have quiet := hook.quiet_attempt arguments fallback runner world
  rw [execute_trace, ownStderrOf_append, quiet.ownStderrOf_eq, h]
  rfl

/-- A hook that fails writes its report and nothing else. -/
theorem ownStderrOf_execute_of_error
    (h : (hook.attempt arguments fallback runner world).value = .error failure) :
    ownStderrOf (hook.execute arguments fallback runner world).trace =
      Utf8.encode (reportLine failure.message) := by
  have quiet := hook.quiet_attempt arguments fallback runner world
  rw [execute_trace, ownStderrOf_append, quiet.ownStderrOf_eq, h]
  exact List.append_nil _

/-- What a hook writes itself is nothing after success, and otherwise the report of its failure,
behind all that its child wrote. The report is one line exactly if no text that the failure
quotes breaks a line, and so exactly if none of the reasons for more lines is there. -/
theorem execute_writes_report (hook : Hook) (arguments : HookArguments) (fallback : Bytes)
    (runner : Runner) (world : World) :
    stderrOf (hook.execute arguments fallback runner world).trace =
      (childrenOf (hook.execute arguments fallback runner world).trace).flatMap
          (·.program.stderr) ++
        ownStderrOf (hook.execute arguments fallback runner world).trace ∧
    ((hook.attempt arguments fallback runner world).value = .ok () →
      ownStderrOf (hook.execute arguments fallback runner world).trace = []) ∧
    ∀ failure, (hook.attempt arguments fallback runner world).value = .error failure →
      ownStderrOf (hook.execute arguments fallback runner world).trace =
        Utf8.encode (reportLine failure.message) ∧
      (IsReport (ownStderrOf (hook.execute arguments fallback runner world).trace) ↔
        ∀ text ∈ failure.quoted, ¬ BreaksLine text) ∧
      (IsReport (ownStderrOf (hook.execute arguments fallback runner world).trace) ↔
        ¬ arguments.ReportBreaks fallback runner world) := by
  refine ⟨hook.stderrOf_execute arguments fallback runner world, ownStderrOf_execute_of_ok, ?_⟩
  intro failure fails
  have hreport := ownStderrOf_execute_of_error fails
  rw [hreport, isReport_reportLine_iff]
  refine ⟨rfl, ?_, ?_⟩
  · rw [Failure.breaksLine_message_iff]
    simp only [not_exists, not_and]
  · rw [not_iff_not]
    rcases arguments.prepared_or_unprepared fallback world with ⟨context, prepared⟩ | missing
    · exact breaksLine_of_prepared prepared fails
    · exact breaksLine_of_unprepared missing fails

/-- A hook whose configuration file is missing reports this on one line. -/
theorem execute_reports_missing_file :
    (checkParens.attempt ⟨[Utf8.encode "a.el"], { configFile := some (Utf8.encode "c") }⟩ []
      .process Settings.bare).value = .error (.io .noEntry) ∧
    IsReport (ownStderrOf (checkParens.execute
      ⟨[Utf8.encode "a.el"], { configFile := some (Utf8.encode "c") }⟩ [] .process
        Settings.bare).trace) ∧
    ¬ HookArguments.ReportBreaks
      ⟨[Utf8.encode "a.el"], { configFile := some (Utf8.encode "c") }⟩ [] .process
        Settings.bare := by
  have fails : (checkParens.attempt
      ⟨[Utf8.encode "a.el"], { configFile := some (Utf8.encode "c") }⟩ [] .process
        Settings.bare).value = .error (.io .noEntry) := by decide +kernel
  obtain ⟨-, hquoted, hreasons⟩ := (execute_writes_report checkParens
    ⟨[Utf8.encode "a.el"], { configFile := some (Utf8.encode "c") }⟩ [] .process
      Settings.bare).2.2 _ fails
  have hreport := hquoted.2 (by decide +kernel)
  exact ⟨fails, hreport, hreasons.1 hreport⟩

/-- A hook whose configuration file gives a number for the load path reports this on several
lines, though the file is well formed. -/
theorem execute_reports_excerpt :
    ∃ failure, (checkParens.attempt ⟨[Utf8.encode "a.el"], {}⟩ [] (.recorder none)
        (Settings.onlyFile "load_path=3")).value = .error failure ∧
      ¬ Settings.Malformed {} (Settings.onlyFile "load_path=3") Settings.root ∧
      ¬ IsReport (ownStderrOf (checkParens.execute ⟨[Utf8.encode "a.el"], {}⟩ [] (.recorder none)
        (Settings.onlyFile "load_path=3")).trace) := by
  have here : (Settings.onlyFile "load_path=3").currentDirectory = .ok Settings.root := rfl
  have chosen : Settings.chosenFile? {} (Settings.onlyFile "load_path=3") Settings.root =
      some (Config.filePath Settings.root) := by decide +kernel
  have text : (Settings.onlyFile "load_path=3").readText (Config.filePath Settings.root) =
      .ok "load_path=3" := by cbv
  have entries : Toml.entriesOf? "load_path=3" =
      some [("load_path", .leaf ⟨10, 11⟩ (.integer 3))] := by cbv
  have refused : ∃ message, Config.ofFileText "load_path=3" = .error message := by
    rw [Config.ofFileText, entries]
    exact ⟨_, rfl⟩
  obtain ⟨message, refused⟩ := refused
  have wellFormed : ¬ Settings.Malformed {} (Settings.onlyFile "load_path=3") Settings.root := by
    rintro ⟨path, source, chosen', text', malformed⟩
    cases chosen.symm.trans chosen'
    cases text.symm.trans text'
    cases entries.symm.trans malformed
  have breaks := Settings.ReportBreaks.shape chosen text entries refused
  have fails : ∃ failure, Settings.loadConfig {} (Settings.onlyFile "load_path=3")
      Settings.root = .error failure := by
    cases h : Settings.loadConfig {} (Settings.onlyFile "load_path=3") Settings.root with
    | ok config => exact (breaks.not_loads config h).elim
    | error failure => exact ⟨failure, rfl⟩
  obtain ⟨failure, fails⟩ := fails
  have unprepared : HookArguments.Unprepared ⟨[Utf8.encode "a.el"], {}⟩ []
      (Settings.onlyFile "load_path=3") := .config here fails
  obtain ⟨⟨failure, hvalue, -⟩, -⟩ := checkParens.attempt_of_unprepared (.recorder none) unprepared
  refine ⟨failure, hvalue, wellFormed, ?_⟩
  rw [ownStderrOf_execute_of_error hvalue, isReport_reportLine_iff, not_not,
    breaksLine_of_unprepared unprepared hvalue]
  exact .configuration here breaks

end Hook

end EmacsBatch
