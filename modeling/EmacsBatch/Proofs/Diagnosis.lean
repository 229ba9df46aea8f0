import EmacsBatch.Doctor
import EmacsBatch.Proofs.Endings

/-!
# What the doctor foretells

The doctor and the hooks load the configuration, find the helper library and look for the
interpreter each for themselves. Under the same settings in the same world they come to the
same: the doctor is content exactly if a hook with files to check gets as far as its
interpreter, and what it reports is what the hook's call is made of.
-/

namespace EmacsBatch

/-- Whether a result of a hook shows that its interpreter was found: the hook succeeded, or
the interpreter could not be started, or ended without success. -/
inductive Hook.FoundInterpreter : Except Failure Unit → Prop where
  | success : FoundInterpreter (.ok ())
  | launch (program : String) (cause : SystemError) :
    FoundInterpreter (.error (.launch program cause))
  | exited (program : String) (code : Int) : FoundInterpreter (.error (.exited program code))
  | terminated (program : String) (signal : Int) :
    FoundInterpreter (.error (.terminated program signal))

namespace Doctor

/-- The reports of the doctor: what it finds under the configuration that is loaded in the
working directory. -/
inductive Reports (settings : Settings) (fallback : Bytes) (world : World) : Report → Prop where
  | intro {directory : Bytes} {config : Config} (here : world.currentDirectory = .ok directory)
    (loads : settings.loadConfig world directory = .ok config) :
    Reports settings fallback world (inspect config (config.locator fallback) world).value

/-- What is reported apart from the version of the interpreter. -/
theorem inspect_value (config : Config) (locator : LibraryLocator) (world : World) :
    (inspect config locator world).value.emacs = config.emacs ∧
      (inspect config locator world).value.emacsPath =
        (Lookup.locate world (Utf8.encode config.emacs)).toOption ∧
      (inspect config locator world).value.library = (locator.resolve world).value.toOption ∧
      (inspect config locator world).value.loadPath = config.loadPath := by
  rw [inspect]
  cases Lookup.locate world (Utf8.encode config.emacs) with
  | error error => exact ⟨rfl, rfl, rfl, rfl⟩
  | ok path => exact ⟨rfl, rfl, rfl, rfl⟩

/-- The interpreter is reported where the look-up finds it. -/
theorem inspect_emacsPath_eq_some_iff {config : Config} {locator : LibraryLocator}
    {world : World} {path : Bytes} :
    (inspect config locator world).value.emacsPath = some path ↔
      Lookup.locate world (Utf8.encode config.emacs) = .ok path := by
  rw [(inspect_value config locator world).2.1, toOption_eq_some_iff]

/-- The helper library that is reported is that of the hooks. -/
theorem inspect_library_eq_some_iff {config : Config} {fallback : Bytes} {world : World}
    {library : Bytes} :
    (inspect config (config.locator fallback) world).value.library = some library ↔
      world.Library config.library fallback library := by
  rw [(inspect_value config _ world).2.2.1, toOption_eq_some_iff]
  constructor
  · intro hvalue
    rcases world.library_or_noLibrary config.library fallback with ⟨found, h⟩ | missing
    · have hfound := LibraryLocator.resolve_of_library h
      cases hfound.symm.trans hvalue
      exact h
    · have hnone := LibraryLocator.resolve_of_noLibrary missing
      cases hnone.symm.trans hvalue
  · exact LibraryLocator.resolve_of_library

/-- Looking around writes nothing to the standard output; what the interpreter answers is kept
from it. -/
theorem stdoutOf_inspect (config : Config) (locator : LibraryLocator) (world : World) :
    stdoutOf (inspect config locator world).trace = [] := by
  have asked (path : Bytes) : stdoutOf (askVersion world path).trace = [] := by
    rw [askVersion]
    cases Launch.start world path [Utf8.encode "--version"] [] <;> rfl
  have found := (locator.silent_resolve world).stdoutOf_eq
  rw [inspect]
  cases Lookup.locate world (Utf8.encode config.emacs) with
  | error error => simpa [Except.toOption] using found
  | ok path => simpa [Except.toOption, asked] using found

/-- The doctor ends as its report lets it, in either form, and prints nothing before it. -/
theorem Reports.run_eq_present {settings : Settings} {fallback : Bytes} {world : World}
    {report : Report} (h : Reports settings fallback world report) (json : Bool) :
    (Doctor.run settings json fallback world).value = (present report json).value ∧
      ∃ before, stdoutOf before = [] ∧
        (Doctor.run settings json fallback world).trace = before ++ (present report json).trace := by
  obtain @⟨directory, config, here, loads⟩ := h
  have inspected := stdoutOf_inspect config (config.locator fallback) world
  rw [Doctor.run, here]
  simp only [loads]
  exact ⟨rfl, .logging config.logLevel :: _, inspected, (List.append_assoc _ _ _).symm⟩

/-- The doctor prints its report last of all, and ends as the report lets it. -/
theorem Reports.run {settings : Settings} {fallback : Bytes} {world : World} {report : Report}
    (h : Reports settings fallback world report) :
    (run settings false fallback world).value = (present report false).value ∧
      ∃ before, (run settings false fallback world).trace = before ++ [.stdout report.text] := by
  obtain ⟨hvalue, before, -, htrace⟩ := h.run_eq_present false
  exact ⟨hvalue, before, htrace⟩

/-- The doctor is content with a report as text exactly if the report is healthy. -/
theorem present_value_eq_ok_iff {report : Report} :
    (present report false).value = .ok () ↔
      ∃ path library, report.emacsPath = some path ∧ report.library = some library := by
  have hvalue : (present report false).value =
      if report.healthy then .ok () else .error .unhealthy := rfl
  rw [hvalue, Report.healthy]
  cases report.emacsPath <;> cases report.library <;> simp

/-- The doctor is content exactly if a hook would be prepared and its interpreter found. -/
theorem run_value_eq_ok_iff {settings : Settings} {fallback : Bytes} {world : World}
    (files : List Bytes) :
    (run settings false fallback world).value = .ok () ↔
      ∃ context path, HookArguments.Prepared ⟨files, settings⟩ fallback world context ∧
        Lookup.locate world (Utf8.encode context.emacs) = .ok path := by
  constructor
  · intro hvalue
    cases here : world.currentDirectory with
    | error cause =>
      rw [run, here] at hvalue
      cases hvalue
    | ok directory =>
      cases loads : settings.loadConfig world directory with
      | error failure =>
        rw [run, here] at hvalue
        simp only [loads] at hvalue
        cases hvalue
      | ok config =>
        rw [(Reports.intro here loads).run.1] at hvalue
        obtain ⟨path, library, hpath, hlibrary⟩ := present_value_eq_ok_iff.1 hvalue
        exact ⟨_, path, .intro here loads (inspect_library_eq_some_iff.1 hlibrary),
          inspect_emacsPath_eq_some_iff.1 hpath⟩
  · rintro ⟨context, path, ⟨here, loads, found⟩, located⟩
    rw [(Reports.intro here loads).run.1]
    exact present_value_eq_ok_iff.2 ⟨path, _, inspect_emacsPath_eq_some_iff.2 located,
      inspect_library_eq_some_iff.2 found⟩

end Doctor

namespace Way

/-- Whether the interpreter is found in a way that has files to check. -/
def findsInterpreter : Way → Bool
  | notStarted | ran _ => true
  | _ => false

/-- The doctor is content exactly in the ways in which the interpreter is found. -/
theorem Occurs.doctor_iff {hook : Hook} {settings : Settings} {files : List Bytes}
    {fallback : Bytes} {world : World} {way : Way}
    (h : way.Occurs hook ⟨files, settings⟩ fallback world) (hfiles : files ≠ []) :
    (Doctor.run settings false fallback world).value = .ok () ↔ way.findsInterpreter = true := by
  have hdoctor : (Doctor.run settings false fallback world).value = .ok () ↔ _ :=
    Doctor.run_value_eq_ok_iff files
  rw [hdoctor]
  cases h with
  | unprepared missing =>
    refine iff_of_false ?_ nofun
    rintro ⟨context, path, prepared, -⟩
    exact missing.not_prepared context prepared
  | noFiles prepared empty => exact absurd empty hfiles
  | notFound prepared files unknown =>
    refine iff_of_false ?_ nofun
    rintro ⟨context, path, hprepared, located⟩
    rw [← prepared.unique hprepared, unknown] at located
    cases located
  | notStarted prepared files located refused => exact iff_of_true ⟨_, _, prepared, located⟩ rfl
  | ran prepared files located started => exact iff_of_true ⟨_, _, prepared, located⟩ rfl

/-- With files to check, the result of a way shows whether the interpreter is found. -/
theorem Gives.foundInterpreter_iff {way : Way} {result : Except Failure Unit}
    (h : way.Gives result) (files : way ≠ .noFiles) :
    Hook.FoundInterpreter result ↔ way.findsInterpreter = true := by
  cases way with
  | unprepared =>
    obtain ⟨failure, rfl, hfailure⟩ := h
    have hnot : ¬ Hook.FoundInterpreter (.error failure) := by
      intro hfound
      cases hfound <;> cases hfailure
    exact iff_of_false hnot nofun
  | noFiles => exact absurd rfl files
  | notFound =>
    obtain ⟨program, rfl⟩ := h
    exact iff_of_false nofun nofun
  | notStarted =>
    obtain ⟨program, cause, rfl⟩ := h
    exact iff_of_true (.launch program cause) rfl
  | ran child =>
    obtain ⟨program, rfl⟩ := h
    refine iff_of_true ?_ rfl
    cases child.program.ending with
    | exit status =>
      by_cases hzero : status = 0
      · rw [Runner.outcome, if_pos hzero]
        exact .success
      · rw [Runner.outcome, if_neg hzero]
        exact .exited _ _
    | signal number => exact .terminated _ _

end Way

/-- Where its program is found, a call starts it there, and ends as that does. -/
theorem Runner.process_run_at {world : World} {invocation : Invocation} {path : Bytes}
    (located : Lookup.locate world invocation.program = .ok path) :
    childrenOf (process.run world invocation).trace =
        (Launch.start world path invocation.arguments invocation.assignments).toOption.toList ∧
      (process.run world invocation).value =
        match Launch.start world path invocation.arguments invocation.assignments with
        | .error cause => .error (.launch (Utf8.lossy invocation.program) cause)
        | .ok child => outcome (Utf8.lossy invocation.program) child.program.ending := by
  cases started : Launch.start world path invocation.arguments invocation.assignments with
  | error cause =>
    exact ⟨childrenOf_run_of_notStarted located started,
      (process_run_of_notStarted located started).1⟩
  | ok child =>
    exact ⟨childrenOf_run_of_started located started, (process_run_of_started located started).1⟩

/-- What a hook does if a report shows an interpreter at a path and a helper library: it makes
one call, which names this library and the directories of the report and starts the interpreter
at this path, and it ends as that does. -/
structure Doctor.Report.Foretells (report : Report) (path library : Bytes) (hook : Hook)
    (arguments : HookArguments) (fallback : Bytes) (world : World) (invocation : Invocation) :
    Prop where
  call : callsOf (hook.execute arguments fallback .process world).trace = [invocation]
  assigned : invocation.assignments = [(Utf8.encode libraryVariable, library)]
  written : invocation.arguments =
    Invocation.batchFlag ::
      (report.loadPath.flatMap fun directory => [Invocation.directoryFlag, directory])
      ++ Invocation.evalFlag :: Utf8.encode hook.snippet :: arguments.files
  children : childrenOf (hook.execute arguments fallback .process world).trace =
    (Launch.start world path invocation.arguments invocation.assignments).toOption.toList
  result : (hook.attempt arguments fallback .process world).value =
    match Launch.start world path invocation.arguments invocation.assignments with
    | .error cause => .error (.launch report.emacs cause)
    | .ok child => Runner.outcome report.emacs child.program.ending

/-- A report with both an interpreter and a helper library foretells what a hook does. -/
theorem Doctor.Reports.foretells {settings : Settings} {fallback : Bytes} {world : World}
    {report : Report} (h : Reports settings fallback world report) {path library : Bytes}
    (hpath : report.emacsPath = some path) (hlibrary : report.library = some library)
    (hook : Hook) {files : List Bytes} (hfiles : files ≠ []) :
    ∃ invocation, report.Foretells path library hook ⟨files, settings⟩ fallback world
      invocation := by
  obtain @⟨directory, config, here, loads⟩ := h
  have prepared : HookArguments.Prepared ⟨files, settings⟩ fallback world
      ⟨config.emacs, library, config.loadPath⟩ :=
    .intro here loads (inspect_library_eq_some_iff.1 hlibrary)
  obtain ⟨hemacs, -, -, hloadPath⟩ := inspect_value config (config.locator fallback) world
  let invocation := hook.invocation ⟨config.emacs, library, config.loadPath⟩ files
  have hwritten : invocation = ⟨Utf8.encode config.emacs, _, _⟩ := Invocation.forHook_eq _ _ _ _ _
  have hprogram : invocation.program = Utf8.encode config.emacs := congrArg _ hwritten
  have located : Lookup.locate world invocation.program = .ok path := by
    rw [hprogram, inspect_emacsPath_eq_some_iff.1 hpath]
  obtain ⟨hchildren, hvalue⟩ := Runner.process_run_at located
  rw [hprogram, Utf8.lossy_encode] at hvalue
  refine ⟨invocation, ?_, congrArg _ hwritten, ?_, ?_, ?_⟩
  · rw [Hook.callsOf_execute, hook.callsOf_attempt .process prepared hfiles]
  · rw [hloadPath]
    exact congrArg _ hwritten
  · rw [Hook.childrenOf_execute, hook.childrenOf_attempt .process prepared hfiles]
    exact hchildren
  · rw [hemacs, (hook.attempt_of_files .process prepared hfiles).1]
    exact hvalue

/-- The doctor is content exactly if a hook with files to check succeeds, or ends with a
failure to start its interpreter or with the interpreter's own failure. If the doctor complains,
the hook starts no child and ends with 1 or 127, and with 127 exactly if it is prepared and its
interpreter is not found. Whenever the doctor gets as far as a report, it prints it, and a report
with both an interpreter and a helper library foretells the call that the hook makes. -/
theorem Doctor.run_foretells_hook (settings : Settings) (fallback : Bytes) (world : World)
    (hook : Hook) {files : List Bytes} (hfiles : files ≠ []) :
    ((Doctor.run settings false fallback world).value = .ok () ↔
      Hook.FoundInterpreter (hook.attempt ⟨files, settings⟩ fallback .process world).value) ∧
    (∀ complaint, (Doctor.run settings false fallback world).value = .error complaint →
      childrenOf (hook.execute ⟨files, settings⟩ fallback .process world).trace = [] ∧
      ((hook.execute ⟨files, settings⟩ fallback .process world).value = 1 ∨
        (hook.execute ⟨files, settings⟩ fallback .process world).value = 127) ∧
      ((hook.execute ⟨files, settings⟩ fallback .process world).value = 127 ↔
        ∃ context error, HookArguments.Prepared ⟨files, settings⟩ fallback world context ∧
          Lookup.locate world (Utf8.encode context.emacs) = .error error)) ∧
    (∀ report, Doctor.Reports settings fallback world report →
      (∃ before,
        (Doctor.run settings false fallback world).trace = before ++ [.stdout report.text]) ∧
      ∀ path library, report.emacsPath = some path → report.library = some library →
        ∃ invocation, report.Foretells path library hook ⟨files, settings⟩ fallback world
          invocation) := by
  obtain ⟨way, occurs⟩ := Way.exists_occurs hook ⟨files, settings⟩ fallback world
  obtain ⟨gives, children, -⟩ := occurs.attempt
  have hdoctor := occurs.doctor_iff hfiles
  have hstatus : (hook.execute ⟨files, settings⟩ fallback .process world).value = way.exitCode := by
    rw [Hook.execute_value, gives.statusOf_eq]
  refine ⟨?_, ?_, ?_⟩
  · have hway : way ≠ .noFiles := by
      rintro rfl
      cases occurs with
      | noFiles prepared empty => exact hfiles empty
    rw [hdoctor, gives.foundInterpreter_iff hway]
  · intro complaint hcomplaint
    have hunfound : way.findsInterpreter ≠ true := by
      intro hfinds
      have hvalue := hdoctor.2 hfinds
      rw [hcomplaint] at hvalue
      cases hvalue
    rw [Hook.childrenOf_execute, children, hstatus]
    cases occurs with
    | unprepared missing =>
      refine ⟨rfl, .inl rfl, iff_of_false (by decide) ?_⟩
      rintro ⟨context, error, prepared, -⟩
      exact missing.not_prepared context prepared
    | noFiles prepared empty => exact absurd empty hfiles
    | notFound prepared files unknown =>
      exact ⟨rfl, .inr rfl, iff_of_true rfl ⟨_, _, prepared, unknown⟩⟩
    | notStarted prepared files located refused => exact absurd rfl hunfound
    | ran prepared files located started => exact absurd rfl hunfound
  · intro report h
    exact ⟨h.run.2, fun path library hpath hlibrary => h.foretells hpath hlibrary hook hfiles⟩

/-- A world with a helper library and an interpreter that ends without success. -/
def Doctor.smallWorld : World where
  tree := ⟨[([Utf8.encode "emacs"], .program ⟨[], [], .exit 3⟩),
    ([Utf8.encode "lib.el"], .file [] false)]⟩
  environment := ⟨[]⟩
  directory := ⟨[], 0⟩

/-- The doctor is content with such an interpreter, and a hook finds it. -/
theorem Doctor.run_foretells_hook_of_failing_interpreter :
    [Utf8.encode "a.el"] ≠ [] ∧
    (Doctor.run { emacs := some "/emacs" } false (Utf8.encode "/lib.el") smallWorld).value =
      .ok () ∧
    Hook.FoundInterpreter (Hook.checkParens.attempt
      ⟨[Utf8.encode "a.el"], { emacs := some "/emacs" }⟩ (Utf8.encode "/lib.el") .process
      smallWorld).value := by
  have hfiles : [Utf8.encode "a.el"] ≠ [] := List.cons_ne_nil _ _
  have loads : Settings.loadConfig { emacs := some "/emacs" } smallWorld (Utf8.encode "/") =
      .ok { emacs := "/emacs" } := by
    refine Settings.loadConfig_eq_ok_iff.2
      ⟨Config.default, Config.default, .defaults (by decide), ?_, ?_, ?_, ?_⟩
    · exact (Environment.layer_over_iff _ _ _).2 (by decide)
    · exact (Config.problem?_eq_none_iff _).1 (by decide)
    · exact (Settings.layer_over_iff _ _ _).2 rfl
    · exact (Config.problem?_eq_none_iff _).1 (by decide)
  have found : smallWorld.Library none (Utf8.encode "/lib.el") (Utf8.encode "/lib.el") :=
    .fallback nofun (by decide)
  have located : Lookup.locate smallWorld (Utf8.encode "/emacs") = .ok (Utf8.encode "/emacs") :=
    toOption_eq_some_iff.1 (by decide)
  have hdoctor : (Doctor.run { emacs := some "/emacs" } false (Utf8.encode "/lib.el")
      smallWorld).value = .ok () :=
    (run_value_eq_ok_iff [Utf8.encode "a.el"]).2 ⟨_, _, .intro rfl loads found, located⟩
  have hforetold := Doctor.run_foretells_hook { emacs := some "/emacs" } (Utf8.encode "/lib.el")
    smallWorld .checkParens hfiles
  exact ⟨hfiles, hdoctor, hforetold.1.1 hdoctor⟩

end EmacsBatch
