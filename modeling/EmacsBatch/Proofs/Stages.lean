import EmacsBatch.Proofs.Loading
import EmacsBatch.Proofs.Traces

/-!
# The stages of a hook

Before a hook looks at its files it needs a working directory, a configuration and a helper
library. What is then handed to the runner depends on these alone. This module says when they
are there, without running anything, and reduces a run of a hook to its last stage.
-/

namespace EmacsBatch

/-- The helper library of a hook: the configured path if it leads to a regular file, and
otherwise the fallback if that leads to one. -/
inductive World.Library (world : World) (configured : Option Bytes) (fallback : Bytes) :
    Bytes → Prop where
  | configured {path : Bytes} (given : configured = some path) (file : world.isFile path = true) :
    Library world configured fallback path
  | fallback (missing : ∀ path, configured = some path → world.isFile path = false)
    (file : world.isFile fallback = true) : Library world configured fallback fallback

/-- There is no helper library: neither path leads to a regular file. -/
structure World.NoLibrary (world : World) (configured : Option Bytes) (fallback : Bytes) :
    Prop where
  configured : ∀ path, configured = some path → world.isFile path = false
  fallback : world.isFile fallback = false

/-- Either there is a helper library or there is none. -/
theorem World.library_or_noLibrary (world : World) (configured : Option Bytes)
    (fallback : Bytes) :
    (∃ library, world.Library configured fallback library) ∨
      world.NoLibrary configured fallback := by
  by_cases hconfigured : ∃ path, configured = some path ∧ world.isFile path = true
  · obtain ⟨path, given, file⟩ := hconfigured
    exact .inl ⟨path, .configured given file⟩
  · have missing : ∀ path, configured = some path → world.isFile path = false := by
      intro path given
      exact Bool.eq_false_iff.2 fun file => hconfigured ⟨path, given, file⟩
    by_cases hfallback : world.isFile fallback = true
    · exact .inl ⟨fallback, .fallback missing hfallback⟩
    · exact .inr ⟨missing, Bool.eq_false_iff.2 hfallback⟩

/-- A helper library leads to a regular file. -/
theorem World.Library.isFile {world : World} {configured : Option Bytes}
    {fallback library : Bytes} (h : world.Library configured fallback library) :
    world.isFile library = true := by
  cases h with
  | configured given file => exact file
  | fallback missing file => exact file

namespace LibraryLocator

/-- The helper library is found if there is one. -/
theorem resolve_of_library {world : World} {configured : Option Bytes} {fallback library : Bytes}
    (h : world.Library configured fallback library) :
    (resolve ⟨configured, fallback⟩ world).value = .ok library := by
  rw [resolve_value]
  cases h with
  | configured given file => simp [candidates, given, file]
  | fallback missing file =>
    cases configured with
    | none => simp [candidates, file]
    | some path => simp [candidates, missing path rfl, file]

/-- Every path looked at is reported if there is none. -/
theorem resolve_of_noLibrary {world : World} {configured : Option Bytes} {fallback : Bytes}
    (h : world.NoLibrary configured fallback) :
    (resolve ⟨configured, fallback⟩ world).value =
      .error (.libraryNotFound (configured.toList ++ [fallback])) := by
  rw [resolve_value]
  cases configured with
  | none => simp [candidates, h.fallback]
  | some path => simp [candidates, h.configured path rfl, h.fallback]

end LibraryLocator

/-- The surroundings that a hook works in: those of the configuration that is loaded in the
working directory, with the helper library found. -/
inductive HookArguments.Prepared (arguments : HookArguments) (fallback : Bytes) (world : World) :
    Context → Prop where
  | intro {directory : Bytes} {config : Config} {library : Bytes}
    (here : world.currentDirectory = .ok directory)
    (loads : arguments.settings.loadConfig world directory = .ok config)
    (found : world.Library config.library fallback library) :
    Prepared arguments fallback world ⟨config.emacs, library, config.loadPath⟩

/-- Why a hook has no surroundings to work in: the working directory is gone, the
configuration cannot be loaded, or there is no helper library. -/
inductive HookArguments.Unprepared (arguments : HookArguments) (fallback : Bytes)
    (world : World) : Prop where
  | directory {cause : SystemError} (gone : world.currentDirectory = .error cause)
  | config {directory : Bytes} {failure : Failure} (here : world.currentDirectory = .ok directory)
    (fails : arguments.settings.loadConfig world directory = .error failure)
  | library {directory : Bytes} {config : Config} (here : world.currentDirectory = .ok directory)
    (loads : arguments.settings.loadConfig world directory = .ok config)
    (missing : world.NoLibrary config.library fallback)

namespace HookArguments

/-- The first stages of a hook, up to its surroundings. -/
def prepare (arguments : HookArguments) (fallback : Bytes) (world : World) :
    Traced (Except Failure Context) :=
  match world.currentDirectory with
  | .error cause => return .error (.io cause)
  | .ok directory =>
    match arguments.settings.loadConfig world directory with
    | .error failure => return .error failure
    | .ok config => do
      Traced.emit (.logging config.logLevel)
      Context.resolve config (config.locator fallback) world

/-- A hook is either prepared or not. -/
theorem prepared_or_unprepared (arguments : HookArguments) (fallback : Bytes) (world : World) :
    (∃ context, arguments.Prepared fallback world context) ∨
      arguments.Unprepared fallback world := by
  cases here : world.currentDirectory with
  | error cause => exact .inr (.directory here)
  | ok directory =>
    cases loads : arguments.settings.loadConfig world directory with
    | error failure => exact .inr (.config here loads)
    | ok config =>
      rcases world.library_or_noLibrary config.library fallback with ⟨library, found⟩ | missing
      · exact .inl ⟨_, .intro here loads found⟩
      · exact .inr (.library here loads missing)

/-- The first stages lead to the surroundings if a hook is prepared. -/
theorem prepare_of_prepared {arguments : HookArguments} {fallback : Bytes} {world : World}
    {context : Context} (h : arguments.Prepared fallback world context) :
    (arguments.prepare fallback world).value = .ok context := by
  obtain ⟨here, loads, found⟩ := h
  have hvalue := LibraryLocator.resolve_of_library found
  simp [prepare, here, loads, Context.resolve, Config.locator, hvalue]

/-- The first stages end with a failure of the configuration if a hook is not prepared. -/
theorem prepare_of_unprepared {arguments : HookArguments} {fallback : Bytes} {world : World}
    (h : arguments.Unprepared fallback world) :
    ∃ failure, (arguments.prepare fallback world).value = .error failure ∧
      failure.isConfiguration = true := by
  cases h with
  | @directory cause gone => exact ⟨.io cause, by simp [prepare, gone], rfl⟩
  | @config directory failure here fails =>
    refine ⟨failure, by simp [prepare, here, fails], ?_⟩
    rcases Settings.isLoading_of_loadConfig fails with ⟨cause, rfl⟩ | ⟨message, rfl⟩ <;> rfl
  | @library directory config here loads missing =>
    have hvalue := LibraryLocator.resolve_of_noLibrary missing
    refine ⟨.libraryNotFound (config.library.toList ++ [fallback]), ?_, rfl⟩
    simp [prepare, here, loads, Context.resolve, Config.locator, hvalue]

/-- The first stages show in the log only. -/
theorem silent_prepare (arguments : HookArguments) (fallback : Bytes) (world : World) :
    Silent (arguments.prepare fallback world).trace := by
  rw [prepare]
  split
  · exact .nil
  · split
    · exact .nil
    · exact .cons rfl (Context.silent_resolve _ _ _)

/-- A hook is prepared exactly when its first stages lead to its surroundings. -/
theorem prepared_iff {arguments : HookArguments} {fallback : Bytes} {world : World}
    {context : Context} :
    arguments.Prepared fallback world context ↔
      (arguments.prepare fallback world).value = .ok context := by
  constructor
  · exact prepare_of_prepared
  · intro hvalue
    rcases arguments.prepared_or_unprepared fallback world with ⟨other, h⟩ | h
    · rw [prepare_of_prepared h] at hvalue
      cases hvalue
      exact h
    · obtain ⟨failure, hfailure, -⟩ := prepare_of_unprepared h
      rw [hfailure] at hvalue
      cases hvalue

/-- A hook is prepared in one way only. -/
theorem Prepared.unique {arguments : HookArguments} {fallback : Bytes} {world : World}
    {context other : Context} (h : arguments.Prepared fallback world context)
    (hother : arguments.Prepared fallback world other) : context = other := by
  rw [prepared_iff] at h hother
  rw [h] at hother
  cases hother
  rfl

/-- A hook that is not prepared has no surroundings. -/
theorem Unprepared.not_prepared {arguments : HookArguments} {fallback : Bytes} {world : World}
    (h : arguments.Unprepared fallback world) (context : Context) :
    ¬ arguments.Prepared fallback world context := by
  intro hprepared
  obtain ⟨failure, hfailure, -⟩ := prepare_of_unprepared h
  rw [prepare_of_prepared hprepared] at hfailure
  cases hfailure

end HookArguments

namespace Hook

/-- A hook prepares itself and then runs over its files. -/
theorem attempt_eq (hook : Hook) (arguments : HookArguments) (fallback : Bytes)
    (runner : Runner) (world : World) :
    hook.attempt arguments fallback runner world = (do
      match ← arguments.prepare fallback world with
      | .error failure => return .error failure
      | .ok context => hook.run arguments.files context runner world) := by
  rw [attempt, HookArguments.prepare]
  cases world.currentDirectory with
  | error cause => rfl
  | ok directory =>
    dsimp only
    cases arguments.settings.loadConfig world directory with
    | error failure => rfl
    | ok config => rfl

/-- A hook that is not prepared ends with a failure of the configuration, which shows in the
log only. -/
theorem attempt_of_unprepared (hook : Hook) {arguments : HookArguments} {fallback : Bytes}
    (runner : Runner) {world : World} (h : arguments.Unprepared fallback world) :
    (∃ failure, (hook.attempt arguments fallback runner world).value = .error failure ∧
      failure.isConfiguration = true) ∧
      Silent (hook.attempt arguments fallback runner world).trace := by
  obtain ⟨failure, hvalue, hfailure⟩ := HookArguments.prepare_of_unprepared h
  refine ⟨⟨failure, ?_, hfailure⟩, ?_⟩
  · simp only [attempt_eq, Traced.value_bind, hvalue, Traced.value_pure]
  · simp only [attempt_eq, Traced.trace_bind, hvalue, Traced.trace_pure, List.append_nil]
    exact arguments.silent_prepare fallback world

/-- A hook that is prepared and has no files succeeds, which shows in the log only. -/
theorem attempt_of_noFiles (hook : Hook) {arguments : HookArguments} {fallback : Bytes}
    (runner : Runner) {world : World} {context : Context}
    (h : arguments.Prepared fallback world context) (hfiles : arguments.files = []) :
    (hook.attempt arguments fallback runner world).value = .ok () ∧
      Silent (hook.attempt arguments fallback runner world).trace := by
  have hvalue := HookArguments.prepare_of_prepared h
  constructor
  · simp only [attempt_eq, Traced.value_bind, hvalue, hfiles]
    rfl
  · simp only [attempt_eq, Traced.trace_bind, hvalue, hfiles]
    exact (arguments.silent_prepare fallback world).append (.cons rfl .nil)

/-- A hook that is prepared and has files ends as its runner does, and what comes before
shows in the log only. -/
theorem attempt_of_files (hook : Hook) {arguments : HookArguments} {fallback : Bytes}
    (runner : Runner) {world : World} {context : Context}
    (h : arguments.Prepared fallback world context) (hfiles : arguments.files ≠ []) :
    (hook.attempt arguments fallback runner world).value =
        (runner.run world (hook.invocation context arguments.files)).value ∧
      ∃ before, (hook.attempt arguments fallback runner world).trace =
          before ++ (runner.run world (hook.invocation context arguments.files)).trace ∧
        Silent before := by
  have hvalue := HookArguments.prepare_of_prepared h
  constructor
  · simp only [attempt_eq, Traced.value_bind, hvalue, run, if_neg hfiles]
  · simp only [attempt_eq, Traced.trace_bind, hvalue, run, if_neg hfiles, Traced.trace_log,
      ← List.append_assoc]
    exact ⟨_, rfl, (arguments.silent_prepare fallback world).append (.cons rfl .nil)⟩

/-- The exit status of a result: zero after success, and that of the failure otherwise. -/
def statusOf : Except Failure Unit → Int
  | .ok () => 0
  | .error failure => failure.exitCode

/-- The exit status is that of the result of the attempt. -/
theorem execute_value (hook : Hook) (arguments : HookArguments) (fallback : Bytes)
    (runner : Runner) (world : World) :
    (hook.execute arguments fallback runner world).value =
      statusOf (hook.attempt arguments fallback runner world).value := by
  rw [execute, Traced.value_bind]
  cases (hook.attempt arguments fallback runner world).value <;> rfl

/-- After the attempt nothing is left but to report a failure. -/
theorem execute_trace (hook : Hook) (arguments : HookArguments) (fallback : Bytes)
    (runner : Runner) (world : World) :
    (hook.execute arguments fallback runner world).trace =
      (hook.attempt arguments fallback runner world).trace ++
        match (hook.attempt arguments fallback runner world).value with
        | .ok () => []
        | .error failure => (hook.report failure).trace := by
  rw [execute, Traced.trace_bind]
  cases (hook.attempt arguments fallback runner world).value with
  | ok done => rfl
  | error failure => simp

/-- Reporting a failure starts no child. -/
theorem childrenOf_report (hook : Hook) (failure : Failure) :
    childrenOf (hook.report failure).trace = [] := rfl

/-- Reporting a failure calls no runner. -/
theorem callsOf_report (hook : Hook) (failure : Failure) :
    callsOf (hook.report failure).trace = [] := rfl

/-- The children of a hook are those of its attempt. -/
theorem childrenOf_execute (hook : Hook) (arguments : HookArguments) (fallback : Bytes)
    (runner : Runner) (world : World) :
    childrenOf (hook.execute arguments fallback runner world).trace =
      childrenOf (hook.attempt arguments fallback runner world).trace := by
  rw [execute_trace, childrenOf_append]
  split
  · exact List.append_nil _
  · rw [childrenOf_report, List.append_nil]

/-- The calls of a hook are those of its attempt. -/
theorem callsOf_execute (hook : Hook) (arguments : HookArguments) (fallback : Bytes)
    (runner : Runner) (world : World) :
    callsOf (hook.execute arguments fallback runner world).trace =
      callsOf (hook.attempt arguments fallback runner world).trace := by
  rw [execute_trace, callsOf_append]
  split
  · exact List.append_nil _
  · rw [callsOf_report, List.append_nil]

end Hook

end EmacsBatch
