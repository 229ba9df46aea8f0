import EmacsBatch.Proofs.Stages

/-!
# How a hook ends

A hook whose runner starts processes ends in one of five ways, and each way gives one exit
status and the children that ran. The ways are tried in order: what is missing before the
files are looked at decides first, then an empty list of files, then the look-up of the
interpreter, then its start. Only then does a child run, and how the child ends decides.

No way but an empty list of files and a child that exits with zero gives the exit status
zero.
-/

namespace EmacsBatch

/-- The exit status that the end of a child gives: its own, or 128 and the number of the
signal. -/
def Ending.exitCode : Ending → Int
  | .exit status => status.toNat
  | .signal number => 128 + number.val

/-- The exit status of a child fits into eight bits. -/
theorem Ending.exitCode_bounds (ending : Ending) : 0 ≤ ending.exitCode ∧ ending.exitCode ≤ 255 := by
  cases ending with
  | exit status =>
    have := status.toNat_lt
    simp only [exitCode]
    omega
  | signal number =>
    have := number.isLt
    simp only [exitCode]
    omega

/-- The exit status of a child is zero only if the child exits with zero. -/
theorem Ending.exitCode_eq_zero_iff (ending : Ending) : ending.exitCode = 0 ↔ ending = .exit 0 := by
  cases ending with
  | exit status =>
    simp only [exitCode, Int.natCast_eq_zero, exit.injEq, ← UInt8.toNat_inj]
    rfl
  | signal number =>
    simp only [exitCode, reduceCtorEq, iff_false]
    omega

namespace Runner

/-- A runner of processes is called, looks for the interpreter and starts it. -/
theorem process_run_eq (world : World) (invocation : Invocation) :
    process.run world invocation = (do
      Traced.emit (.call invocation)
      match ← locate world invocation with
      | .error failure => return .error failure
      | .ok path => runAt world invocation path) := rfl

/-- What a runner of processes does when it does not find the interpreter. -/
theorem process_run_of_notFound {world : World} {invocation : Invocation}
    {error : Lookup.LookupError} (h : Lookup.locate world invocation.program = .error error) :
    (process.run world invocation).value =
        .error (.interpreterNotFound (Utf8.lossy invocation.program)) ∧
      ∃ after, (process.run world invocation).trace = .call invocation :: after ∧
        Silent after := by
  have hvalue := locate_value world invocation
  simp only [h] at hvalue
  refine ⟨?_, (locate world invocation).trace, ?_, silent_locate world invocation⟩
  · simp only [process_run_eq, Traced.value_bind, hvalue, Traced.value_pure]
  · simp only [process_run_eq, Traced.trace_bind, Traced.trace_emit, hvalue, Traced.trace_pure,
      List.append_nil, List.singleton_append]

/-- What a runner of processes does when it finds the interpreter. -/
theorem process_run_of_found {world : World} {invocation : Invocation} {path : Bytes}
    (h : Lookup.locate world invocation.program = .ok path) :
    (process.run world invocation).value = (runAt world invocation path).value ∧
      ∃ before, (process.run world invocation).trace =
          .call invocation :: (before ++ (runAt world invocation path).trace) ∧
        Silent before := by
  have hvalue := locate_value world invocation
  simp only [h] at hvalue
  refine ⟨?_, (locate world invocation).trace, ?_, silent_locate world invocation⟩
  · simp only [process_run_eq, Traced.value_bind, hvalue]
  · simp only [process_run_eq, Traced.trace_bind, Traced.trace_emit, hvalue,
      List.singleton_append]

/-- A start that fails leaves one event. -/
theorem runAt_of_error {world : World} {invocation : Invocation} {path : Bytes}
    {cause : SystemError}
    (h : Launch.start world path invocation.arguments invocation.assignments = .error cause) :
    (runAt world invocation path).value = .error (.launch (Utf8.lossy invocation.program) cause) ∧
      ∃ event, (runAt world invocation path).trace = [.event event] := by
  rw [runAt, h]
  exact ⟨rfl, _, rfl⟩

/-- A child that was started runs between two events, and its end decides. -/
theorem runAt_of_ok {world : World} {invocation : Invocation} {path : Bytes} {child : Child}
    (h : Launch.start world path invocation.arguments invocation.assignments = .ok child) :
    (runAt world invocation path).value =
        outcome (Utf8.lossy invocation.program) child.program.ending ∧
      ∃ first last, (runAt world invocation path).trace =
        [.event first, .child child, .event last] := by
  rw [runAt, h]
  exact ⟨rfl, _, _, rfl⟩

/-- What a runner of processes does when the interpreter cannot be started. -/
theorem process_run_of_notStarted {world : World} {invocation : Invocation} {path : Bytes}
    {cause : SystemError} (hpath : Lookup.locate world invocation.program = .ok path)
    (h : Launch.start world path invocation.arguments invocation.assignments = .error cause) :
    (process.run world invocation).value =
        .error (.launch (Utf8.lossy invocation.program) cause) ∧
      ∃ after, (process.run world invocation).trace = .call invocation :: after ∧
        Silent after := by
  obtain ⟨hvalue, before, htrace, silent⟩ := process_run_of_found hpath
  obtain ⟨hvalue', event, htrace'⟩ := runAt_of_error h
  refine ⟨hvalue.trans hvalue', before ++ [.event event], ?_, ?_⟩
  · rw [htrace, htrace']
  · exact silent.append (.cons rfl .nil)

/-- What a runner of processes does when the interpreter is started. -/
theorem process_run_of_started {world : World} {invocation : Invocation} {path : Bytes}
    {child : Child} (hpath : Lookup.locate world invocation.program = .ok path)
    (h : Launch.start world path invocation.arguments invocation.assignments = .ok child) :
    (process.run world invocation).value =
        outcome (Utf8.lossy invocation.program) child.program.ending ∧
      ∃ before after,
        (process.run world invocation).trace =
          .call invocation :: (before ++ .child child :: after) ∧
        Silent before ∧ Silent after := by
  obtain ⟨hvalue, before, htrace, silent⟩ := process_run_of_found hpath
  obtain ⟨hvalue', first, last, htrace'⟩ := runAt_of_ok h
  refine ⟨hvalue.trans hvalue', before ++ [.event first], [.event last], ?_, ?_, ?_⟩
  · rw [htrace, htrace', List.append_assoc]
    rfl
  · exact silent.append (.cons rfl .nil)
  · exact .cons rfl .nil

/-- No child runs if the interpreter is not found. -/
theorem childrenOf_run_of_notFound {world : World} {invocation : Invocation}
    {error : Lookup.LookupError} (h : Lookup.locate world invocation.program = .error error) :
    childrenOf (process.run world invocation).trace = [] := by
  obtain ⟨-, after, htrace, silent⟩ := process_run_of_notFound h
  rw [htrace]
  exact silent.childrenOf_eq

/-- No child runs if the interpreter cannot be started. -/
theorem childrenOf_run_of_notStarted {world : World} {invocation : Invocation} {path : Bytes}
    {cause : SystemError} (hpath : Lookup.locate world invocation.program = .ok path)
    (h : Launch.start world path invocation.arguments invocation.assignments = .error cause) :
    childrenOf (process.run world invocation).trace = [] := by
  obtain ⟨-, after, htrace, silent⟩ := process_run_of_notStarted hpath h
  rw [htrace]
  exact silent.childrenOf_eq

/-- The child that is started is the only one. -/
theorem childrenOf_run_of_started {world : World} {invocation : Invocation} {path : Bytes}
    {child : Child} (hpath : Lookup.locate world invocation.program = .ok path)
    (h : Launch.start world path invocation.arguments invocation.assignments = .ok child) :
    childrenOf (process.run world invocation).trace = [child] := by
  obtain ⟨-, before, after, htrace, hbefore, hafter⟩ := process_run_of_started hpath h
  have hchildren : childrenOf (before ++ .child child :: after) = [child] := by
    rw [childrenOf_append, hbefore.childrenOf_eq]
    exact congrArg (child :: ·) hafter.childrenOf_eq
  rw [htrace]
  exact hchildren

/-- Every runner is called once, for the invocation that it is given. -/
theorem callsOf_run (runner : Runner) (world : World) (invocation : Invocation) :
    callsOf (runner.run world invocation).trace = [invocation] := by
  cases runner with
  | recorder answer => cases answer <;> rfl
  | process =>
    have only {after : List Effect} (silent : Silent after) :
        callsOf (.call invocation :: after) = [invocation] :=
      congrArg (invocation :: ·) silent.callsOf_eq
    cases hpath : Lookup.locate world invocation.program with
    | error error =>
      obtain ⟨-, after, htrace, silent⟩ := process_run_of_notFound hpath
      rw [htrace, only silent]
    | ok path =>
      cases hstart : Launch.start world path invocation.arguments invocation.assignments with
      | error cause =>
        obtain ⟨-, after, htrace, silent⟩ := process_run_of_notStarted hpath hstart
        rw [htrace, only silent]
      | ok child =>
        obtain ⟨-, before, after, htrace, hbefore, hafter⟩ := process_run_of_started hpath hstart
        have hrest : callsOf (before ++ .child child :: after) = [] := by
          rw [callsOf_append, hbefore.callsOf_eq]
          exact hafter.callsOf_eq
        rw [htrace]
        exact congrArg (invocation :: ·) hrest

/-- The exit status that comes from the end of a child. -/
theorem statusOf_outcome (program : String) (ending : Ending) :
    Hook.statusOf (outcome program ending) = ending.exitCode := by
  cases ending with
  | exit status =>
    by_cases h : status = 0
    · subst status
      rfl
    · simp [outcome, h, Hook.statusOf, Failure.exitCode, Ending.exitCode]
  | signal number => rfl

/-- The end of a child is never blamed on the configuration. -/
theorem isConfiguration_of_outcome {program : String} {ending : Ending} {failure : Failure}
    (h : outcome program ending = .error failure) : failure.isConfiguration = false := by
  cases ending with
  | exit status =>
    by_cases hzero : status = 0
    · simp [outcome, hzero] at h
    · simp only [outcome, hzero, if_false] at h
      cases h
      rfl
  | signal number =>
    cases h
    rfl

end Runner

namespace Hook

/-- The children of a hook with files are those of its runner. -/
theorem childrenOf_attempt (hook : Hook) {arguments : HookArguments} {fallback : Bytes}
    (runner : Runner) {world : World} {context : Context}
    (h : arguments.Prepared fallback world context) (hfiles : arguments.files ≠ []) :
    childrenOf (hook.attempt arguments fallback runner world).trace =
      childrenOf (runner.run world (hook.invocation context arguments.files)).trace := by
  obtain ⟨-, before, htrace, silent⟩ := hook.attempt_of_files runner h hfiles
  rw [htrace, childrenOf_append, silent.childrenOf_eq, List.nil_append]

/-- A hook with files calls its runner once. -/
theorem callsOf_attempt (hook : Hook) {arguments : HookArguments} {fallback : Bytes}
    (runner : Runner) {world : World} {context : Context}
    (h : arguments.Prepared fallback world context) (hfiles : arguments.files ≠ []) :
    callsOf (hook.attempt arguments fallback runner world).trace =
      [hook.invocation context arguments.files] := by
  obtain ⟨-, before, htrace, silent⟩ := hook.attempt_of_files runner h hfiles
  rw [htrace, callsOf_append, silent.callsOf_eq, List.nil_append, Runner.callsOf_run]

/-- What a hook hands to its runner is settled by its first stages. -/
theorem callsOf_execute_eq (hook : Hook) (arguments : HookArguments) (fallback : Bytes)
    (runner : Runner) (world : World) :
    callsOf (hook.execute arguments fallback runner world).trace =
      match (arguments.prepare fallback world).value with
      | .ok context =>
        if arguments.files = [] then [] else [hook.invocation context arguments.files]
      | .error _ => [] := by
  rw [callsOf_execute]
  rcases arguments.prepared_or_unprepared fallback world with ⟨context, prepared⟩ | missing
  · rw [HookArguments.prepare_of_prepared prepared]
    by_cases files : arguments.files = []
    · simp [(hook.attempt_of_noFiles runner prepared files).2.callsOf_eq, files]
    · simp [hook.callsOf_attempt runner prepared files, files]
  · obtain ⟨failure, hvalue, -⟩ := HookArguments.prepare_of_unprepared missing
    rw [hvalue, (hook.attempt_of_unprepared runner missing).2.callsOf_eq]

/-- A hook calls its runner exactly if it is prepared and has files. -/
theorem callsOf_execute_ne_nil_iff (hook : Hook) (arguments : HookArguments) (fallback : Bytes)
    (runner : Runner) (world : World) :
    callsOf (hook.execute arguments fallback runner world).trace ≠ [] ↔
      arguments.files ≠ [] ∧ ∃ context, arguments.Prepared fallback world context := by
  simp only [callsOf_execute_eq, HookArguments.prepared_iff]
  cases (arguments.prepare fallback world).value with
  | error failure => simp
  | ok context => by_cases files : arguments.files = [] <;> simp [files]

end Hook

/-- The ways in which a hook ends. -/
inductive Way where
  /-- The working directory, the configuration or the helper library is missing. -/
  | unprepared
  /-- There is nothing to check. -/
  | noFiles
  /-- The interpreter is not found. -/
  | notFound
  /-- The interpreter is found and cannot be started. -/
  | notStarted
  /-- The interpreter runs as a child. -/
  | ran (child : Child)

namespace Way

/-- When a hook ends in a way; each way presupposes that none before it comes about. -/
inductive Occurs (hook : Hook) (arguments : HookArguments) (fallback : Bytes) (world : World) :
    Way → Prop where
  | unprepared (missing : arguments.Unprepared fallback world) :
    Occurs hook arguments fallback world .unprepared
  | noFiles {context : Context} (prepared : arguments.Prepared fallback world context)
    (empty : arguments.files = []) : Occurs hook arguments fallback world .noFiles
  | notFound {context : Context} {error : Lookup.LookupError}
    (prepared : arguments.Prepared fallback world context) (files : arguments.files ≠ [])
    (unknown : Lookup.locate world (Utf8.encode context.emacs) = .error error) :
    Occurs hook arguments fallback world .notFound
  | notStarted {context : Context} {path : Bytes} {cause : SystemError}
    (prepared : arguments.Prepared fallback world context) (files : arguments.files ≠ [])
    (located : Lookup.locate world (Utf8.encode context.emacs) = .ok path)
    (refused : Launch.start world path (hook.invocation context arguments.files).arguments
      (hook.invocation context arguments.files).assignments = .error cause) :
    Occurs hook arguments fallback world .notStarted
  | ran {context : Context} {path : Bytes} {child : Child}
    (prepared : arguments.Prepared fallback world context) (files : arguments.files ≠ [])
    (located : Lookup.locate world (Utf8.encode context.emacs) = .ok path)
    (started : Launch.start world path (hook.invocation context arguments.files).arguments
      (hook.invocation context arguments.files).assignments = .ok child) :
    Occurs hook arguments fallback world (.ran child)

/-- The exit status of a way. -/
def exitCode : Way → Int
  | unprepared => 1
  | noFiles => 0
  | notFound => 127
  | notStarted => 1
  | ran child => child.program.ending.exitCode

/-- The children that run in a way. -/
def children : Way → List Child
  | ran child => [child]
  | _ => []

/-- Whether the runner is called in a way. -/
def calls : Way → Bool
  | unprepared | noFiles => false
  | _ => true

/-- Whether the result of a hook is that of a way. -/
def Gives : Way → Except Failure Unit → Prop
  | unprepared, result => ∃ failure, result = .error failure ∧ failure.isConfiguration = true
  | noFiles, result => result = .ok ()
  | notFound, result => ∃ program, result = .error (.interpreterNotFound program)
  | notStarted, result => ∃ program cause, result = .error (.launch program cause)
  | ran child, result => ∃ program, result = Runner.outcome program child.program.ending

/-- Some way comes about. -/
theorem exists_occurs (hook : Hook) (arguments : HookArguments) (fallback : Bytes)
    (world : World) : ∃ way : Way, way.Occurs hook arguments fallback world := by
  rcases arguments.prepared_or_unprepared fallback world with ⟨context, prepared⟩ | missing
  · by_cases empty : arguments.files = []
    · exact ⟨_, .noFiles prepared empty⟩
    · cases located : Lookup.locate world (Utf8.encode context.emacs) with
      | error error => exact ⟨_, .notFound prepared empty located⟩
      | ok path =>
        cases started : Launch.start world path (hook.invocation context arguments.files).arguments
            (hook.invocation context arguments.files).assignments with
        | error cause => exact ⟨_, .notStarted prepared empty located started⟩
        | ok child => exact ⟨_, .ran prepared empty located started⟩
  · exact ⟨_, .unprepared missing⟩

/-- The first way that nothing stands against. -/
def first (hook : Hook) (arguments : HookArguments) (fallback : Bytes) (world : World) : Way :=
  match (arguments.prepare fallback world).value with
  | .error _ => unprepared
  | .ok context =>
    if arguments.files = [] then noFiles
    else match Lookup.locate world (Utf8.encode context.emacs) with
      | .error _ => notFound
      | .ok path =>
        match Launch.start world path (hook.invocation context arguments.files).arguments
            (hook.invocation context arguments.files).assignments with
        | .error _ => notStarted
        | .ok child => ran child

/-- The way that comes about is the first that nothing stands against. -/
theorem Occurs.eq_first {hook : Hook} {arguments : HookArguments} {fallback : Bytes}
    {world : World} {way : Way} (h : way.Occurs hook arguments fallback world) :
    way = first hook arguments fallback world := by
  rw [first]
  cases h with
  | unprepared missing =>
    obtain ⟨failure, hvalue, -⟩ := HookArguments.prepare_of_unprepared missing
    simp only [hvalue]
  | noFiles prepared empty =>
    simp only [HookArguments.prepare_of_prepared prepared, empty, if_true]
  | notFound prepared files unknown =>
    simp only [HookArguments.prepare_of_prepared prepared, files, if_false, unknown]
  | notStarted prepared files located refused =>
    simp only [HookArguments.prepare_of_prepared prepared, files, if_false, located, refused]
  | ran prepared files located started =>
    simp only [HookArguments.prepare_of_prepared prepared, files, if_false, located, started]

/-- A hook that ends in a way gives its result, runs its children, and calls the runner or
does not. -/
theorem Occurs.attempt {hook : Hook} {arguments : HookArguments} {fallback : Bytes}
    {world : World} {way : Way} (h : way.Occurs hook arguments fallback world) :
    way.Gives (hook.attempt arguments fallback .process world).value ∧
      childrenOf (hook.attempt arguments fallback .process world).trace = way.children ∧
      (callsOf (hook.attempt arguments fallback .process world).trace = [] ↔
        way.calls = false) := by
  cases h with
  | unprepared missing =>
    obtain ⟨failure, silent⟩ := hook.attempt_of_unprepared .process missing
    exact ⟨failure, silent.childrenOf_eq, by simp [silent.callsOf_eq, calls]⟩
  | noFiles prepared empty =>
    obtain ⟨hvalue, silent⟩ := hook.attempt_of_noFiles .process prepared empty
    exact ⟨hvalue, silent.childrenOf_eq, by simp [silent.callsOf_eq, calls]⟩
  | @notFound context error prepared files unknown =>
    have hpath : Lookup.locate world (hook.invocation context arguments.files).program =
        .error error := unknown
    obtain ⟨hvalue, -⟩ := hook.attempt_of_files .process prepared files
    refine ⟨⟨_, hvalue.trans (Runner.process_run_of_notFound hpath).1⟩, ?_, ?_⟩
    · rw [hook.childrenOf_attempt .process prepared files, Runner.childrenOf_run_of_notFound hpath]
      rfl
    · simp [hook.callsOf_attempt .process prepared files, calls]
  | @notStarted context path cause prepared files located refused =>
    have hpath : Lookup.locate world (hook.invocation context arguments.files).program =
        .ok path := located
    obtain ⟨hvalue, -⟩ := hook.attempt_of_files .process prepared files
    refine ⟨⟨_, _, hvalue.trans (Runner.process_run_of_notStarted hpath refused).1⟩, ?_, ?_⟩
    · rw [hook.childrenOf_attempt .process prepared files,
        Runner.childrenOf_run_of_notStarted hpath refused]
      rfl
    · simp [hook.callsOf_attempt .process prepared files, calls]
  | @ran context path child prepared files located started =>
    have hpath : Lookup.locate world (hook.invocation context arguments.files).program =
        .ok path := located
    obtain ⟨hvalue, -⟩ := hook.attempt_of_files .process prepared files
    refine ⟨⟨_, hvalue.trans (Runner.process_run_of_started hpath started).1⟩, ?_, ?_⟩
    · rw [hook.childrenOf_attempt .process prepared files,
        Runner.childrenOf_run_of_started hpath started]
      rfl
    · simp [hook.callsOf_attempt .process prepared files, calls]

/-- The result of a way has its exit status. -/
theorem Gives.statusOf_eq {way : Way} {result : Except Failure Unit} (h : way.Gives result) :
    Hook.statusOf result = way.exitCode := by
  cases way with
  | unprepared =>
    obtain ⟨failure, rfl, hfailure⟩ := h
    cases failure <;> first | rfl | cases hfailure
  | noFiles =>
    cases h
    rfl
  | notFound =>
    obtain ⟨program, rfl⟩ := h
    rfl
  | notStarted =>
    obtain ⟨program, cause, rfl⟩ := h
    rfl
  | ran child =>
    obtain ⟨program, rfl⟩ := h
    exact Runner.statusOf_outcome program child.program.ending

/-- A failure is one of the configuration exactly in the ways in which the runner is not
called. -/
theorem Gives.isConfiguration_iff {way : Way} {failure : Failure}
    (h : way.Gives (.error failure)) : failure.isConfiguration = true ↔ way.calls = false := by
  cases way with
  | unprepared =>
    obtain ⟨other, hother, hfailure⟩ := h
    cases hother
    simp [hfailure, calls]
  | noFiles => cases h
  | notFound =>
    obtain ⟨program, hother⟩ := h
    cases hother
    simp [Failure.isConfiguration, calls]
  | notStarted =>
    obtain ⟨program, cause, hother⟩ := h
    cases hother
    simp [Failure.isConfiguration, calls]
  | ran child =>
    obtain ⟨program, hother⟩ := h
    simp [Runner.isConfiguration_of_outcome hother.symm, calls]

/-- The exit status of a way fits into eight bits. -/
theorem exitCode_bounds (way : Way) : 0 ≤ way.exitCode ∧ way.exitCode ≤ 255 := by
  cases way with
  | ran child => exact child.program.ending.exitCode_bounds
  | _ => decide

/-- The exit status of a way is zero only without files or after a child that exits with
zero. -/
theorem exitCode_eq_zero_iff (way : Way) :
    way.exitCode = 0 ↔
      way = .noFiles ∨ ∃ child, way = .ran child ∧ child.program.ending = .exit 0 := by
  cases way with
  | ran child => simp [exitCode, child.program.ending.exitCode_eq_zero_iff]
  | _ => simp [exitCode]

end Way

/-- A hook ends in exactly one way, which gives its result, its exit status and the children
that ran. The exit status fits into eight bits, and is zero only without files or after one
child that exits with zero. A failure is one of the configuration exactly when the runner is
not called. -/
theorem Hook.execute_ends_in_one_way (hook : Hook) (arguments : HookArguments) (fallback : Bytes)
    (world : World) :
    ∃ way : Way, way.Occurs hook arguments fallback world ∧
      (∀ other : Way, other.Occurs hook arguments fallback world → other = way) ∧
      way.Gives (hook.attempt arguments fallback .process world).value ∧
      (hook.execute arguments fallback .process world).value = way.exitCode ∧
      childrenOf (hook.execute arguments fallback .process world).trace = way.children ∧
      0 ≤ (hook.execute arguments fallback .process world).value ∧
      (hook.execute arguments fallback .process world).value ≤ 255 ∧
      ((hook.execute arguments fallback .process world).value = 0 ↔
        way = .noFiles ∨ ∃ child, way = .ran child ∧ child.program.ending = .exit 0) ∧
      (∀ failure, (hook.attempt arguments fallback .process world).value = .error failure →
        (failure.isConfiguration = true ↔
          callsOf (hook.execute arguments fallback .process world).trace = [])) := by
  obtain ⟨way, occurs⟩ := Way.exists_occurs hook arguments fallback world
  obtain ⟨gives, children, calls⟩ := occurs.attempt
  have status : (hook.execute arguments fallback .process world).value = way.exitCode := by
    rw [execute_value, gives.statusOf_eq]
  refine ⟨way, occurs, ?_, gives, status, ?_, ?_, ?_, ?_, ?_⟩
  · intro other hother
    rw [hother.eq_first, occurs.eq_first]
  · rw [childrenOf_execute, children]
  · rw [status]
    exact way.exitCode_bounds.1
  · rw [status]
    exact way.exitCode_bounds.2
  · rw [status, way.exitCode_eq_zero_iff]
  · intro failure hfailure
    rw [hfailure] at gives
    rw [callsOf_execute, calls, gives.isConfiguration_iff]

end EmacsBatch
