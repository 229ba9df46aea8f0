import EmacsBatch.Proofs.Children
import EmacsBatch.Proofs.Endings

/-!
# Hooks in one process

A process may run many hooks, one after another, while the world around it changes: a child
may change the files in any way, and the process itself may do anything between two runs.
What a run hands to its runner depends on the world that it finds and on nothing that was
run before. It makes one call if it is prepared and has files, and none otherwise, and leaves the
environment of the process alone; the one variable that the child is given is seen by the child
only.
-/

namespace EmacsBatch

/-- A run of a hook. -/
structure HookRun where
  hook : Hook
  arguments : HookArguments
  fallback : Bytes
  runner : Runner

/-- The files that a child leaves behind, and where its parent is among them; a child may
remove the directory that its parent works in. -/
abbrev Aftermath := Child → World → FileTree × Spot

/-- The world after an effect. Only a child changes it, and no child changes the environment
of its parent. -/
def World.after (aftermath : Aftermath) (world : World) : Effect → World
  | .child child | .capturedChild child =>
    ⟨(aftermath child world).1, world.environment, (aftermath child world).2⟩
  | _ => world

/-- A process with the world around it and all its effects so far. -/
structure Session where
  world : World
  trace : List Effect

namespace Session

/-- What can happen in a session. -/
inductive Step where
  | run (run : HookRun)
  /-- The process does something else, and finds itself in another world. -/
  | move (world : World)

/-- The session after one step. -/
def step (aftermath : Aftermath) (session : Session) : Step → Session
  | .run run =>
    let effects :=
      (run.hook.execute run.arguments run.fallback run.runner session.world).trace
    ⟨effects.foldl (World.after aftermath) session.world, session.trace ++ effects⟩
  | .move world => { session with world }

/-- The session after a row of steps. -/
def steps (aftermath : Aftermath) (session : Session) (history : List Step) : Session :=
  history.foldl (step aftermath) session

end Session

/-- No effects change the environment of a process. -/
theorem World.environment_after (aftermath : Aftermath) (world : World) (effects : List Effect) :
    (effects.foldl (World.after aftermath) world).environment = world.environment := by
  induction effects generalizing world with
  | nil => rfl
  | cons effect effects ih =>
    rw [List.foldl_cons, ih]
    cases effect <;> rfl

/-- The configuration that is effective for a command in a directory: the flags over the
environment over the chosen file or the defaults. -/
def Settings.Effective (settings : Settings) (world : World) (directory : Bytes)
    (config : Config) : Prop :=
  ∃ bottom below, settings.Bottom world directory bottom ∧
    world.environment.layer.Over bottom below ∧ settings.layer.Over below config

/-- A configuration that is loaded is the effective one. -/
theorem Settings.effective_of_loadConfig {settings : Settings} {world : World}
    {directory : Bytes} {config : Config}
    (h : settings.loadConfig world directory = .ok config) :
    settings.Effective world directory config := by
  obtain ⟨bottom, below, hbottom, hbelow, -, hconfig, -⟩ := loadConfig_eq_ok_iff.1 h
  exact ⟨bottom, below, hbottom, hbelow, hconfig⟩

/-- The children of a runner are started for the invocation that it is given. -/
theorem Runner.start_of_mem_childrenOf {runner : Runner} {world : World}
    {invocation : Invocation} {child : Child}
    (h : child ∈ childrenOf (runner.run world invocation).trace) :
    ∃ path, Launch.start world path invocation.arguments invocation.assignments = .ok child := by
  cases runner with
  | recorder answer => cases answer <;> cases h
  | process =>
    cases hpath : Lookup.locate world invocation.program with
    | error error =>
      rw [childrenOf_run_of_notFound hpath] at h
      cases h
    | ok path =>
      cases hstart : Launch.start world path invocation.arguments invocation.assignments with
      | error cause =>
        rw [childrenOf_run_of_notStarted hpath hstart] at h
        cases h
      | ok other =>
        rw [childrenOf_run_of_started hpath hstart, List.mem_singleton] at h
        exact ⟨path, h ▸ hstart⟩

/-- A hook that calls its runner is prepared, and calls it for its own invocation. -/
theorem Hook.attempt_cases (hook : Hook) (arguments : HookArguments) (fallback : Bytes)
    (runner : Runner) (world : World) :
    Silent (hook.attempt arguments fallback runner world).trace ∨
      ∃ context, arguments.Prepared fallback world context ∧
        callsOf (hook.attempt arguments fallback runner world).trace =
          [hook.invocation context arguments.files] ∧
        childrenOf (hook.attempt arguments fallback runner world).trace =
          childrenOf (runner.run world (hook.invocation context arguments.files)).trace := by
  rcases arguments.prepared_or_unprepared fallback world with ⟨context, prepared⟩ | missing
  · by_cases files : arguments.files = []
    · exact .inl (hook.attempt_of_noFiles runner prepared files).2
    · exact .inr ⟨context, prepared, hook.callsOf_attempt runner prepared files,
        hook.childrenOf_attempt runner prepared files⟩
  · exact .inl (hook.attempt_of_unprepared runner missing).2

/-- A child of a hook's call sees the library that the call gives it, whatever the environment
of its parent says. -/
theorem Launch.library_of_start {world : World} {path library : Bytes} {arguments : List Bytes}
    {child : Child}
    (h : start world path arguments [(Utf8.encode libraryVariable, library)] = .ok child) :
    child.environment.value? libraryVariable = some library ∧
      (world.environment.WellNamed →
        child.environment.found? (Utf8.encode libraryVariable) = some library) := by
  have henvironment : child.environment =
      world.environment.set (Utf8.encode libraryVariable) library := environment_of_start h
  rw [henvironment]
  constructor
  · exact Environment.get?_set_self _ _ _
  · intro named
    exact Environment.found?_set named (by decide) library

/-- Whatever ran before in its process, a run of a hook makes at most one call, and it makes one
exactly if it has files and is prepared in the world that it finds. The call has the effective
interpreter for its program, and its arguments are the batch flag, every directory of the
effective load path behind its option, the hook's form behind its option, and the files as they
were given. Its only variable names a helper library that is a regular file at that moment, the
configured one if that is one and the fallback otherwise. Every child sees this value, and the
environment of the process stays as it is. -/
theorem Session.run_makes_one_call (aftermath : Aftermath) (start : Session)
    (history : List Step) (run : HookRun) :
    ∃ before after effects,
      before = start.steps aftermath history ∧ after = before.step aftermath (.run run) ∧
      after.trace = before.trace ++ effects ∧
      (callsOf effects).length ≤ 1 ∧
      (callsOf effects ≠ [] ↔ run.arguments.files ≠ [] ∧
        ∃ context, run.arguments.Prepared run.fallback before.world context) ∧
      (callsOf effects = [] → childrenOf effects = []) ∧
      (∀ invocation ∈ callsOf effects, ∃ directory config library,
        before.world.currentDirectory = .ok directory ∧
        run.arguments.settings.Effective before.world directory config ∧
        before.world.Library config.library run.fallback library ∧
        before.world.isFile library = true ∧
        invocation.program = Utf8.encode config.emacs ∧
        invocation.arguments =
          [Utf8.encode "--batch"] ++
          (config.loadPath.flatMap fun path => [Utf8.encode "-L", path]) ++
          [Utf8.encode "--eval", Utf8.encode run.hook.snippet] ++ run.arguments.files ∧
        invocation.assignments = [(Utf8.encode "PRE_COMMIT_ELISP_LIB", library)] ∧
        ∀ child ∈ childrenOf effects,
          child.environment.value? libraryVariable = some library ∧
          (before.world.environment.WellNamed →
            child.environment.found? (Utf8.encode libraryVariable) = some library)) ∧
      after.world.environment = before.world.environment := by
  obtain ⟨before, hbefore⟩ : ∃ before, before = start.steps aftermath history := ⟨_, rfl⟩
  obtain ⟨hook, arguments, fallback, runner⟩ := run
  refine ⟨before, _, (hook.execute arguments fallback runner before.world).trace, hbefore, rfl,
    rfl, ?_⟩
  have henvironment :
      (before.step aftermath (.run ⟨hook, arguments, fallback, runner⟩)).world.environment =
        before.world.environment := World.environment_after aftermath _ _
  have hcalled := hook.callsOf_execute_ne_nil_iff arguments fallback runner before.world
  rw [Hook.callsOf_execute] at hcalled ⊢
  rw [Hook.childrenOf_execute]
  rcases hook.attempt_cases arguments fallback runner before.world with
    silent | ⟨context, prepared, hcalls, hchildren⟩
  · rw [silent.callsOf_eq, silent.childrenOf_eq]
    rw [silent.callsOf_eq] at hcalled
    exact ⟨Nat.zero_le _, hcalled, fun _ => rfl, fun invocation h => (List.not_mem_nil h).elim, henvironment⟩
  · rw [hcalls] at hcalled ⊢
    rw [hchildren]
    refine ⟨Nat.le_refl _, hcalled, fun h => (List.cons_ne_nil _ _ h).elim, ?_, henvironment⟩
    intro invocation hinvocation
    rw [List.mem_singleton] at hinvocation
    subst invocation
    obtain ⟨here, loads, found⟩ := prepared
    refine ⟨_, _, _, here, Settings.effective_of_loadConfig loads, found, found.isFile, ?_⟩
    rw [Hook.invocation, Invocation.forHook_eq]
    refine ⟨rfl, ?_, rfl, ?_⟩
    · simp [Invocation.batchFlag, Invocation.directoryFlag, Invocation.evalFlag]
    · intro child hchild
      obtain ⟨path, hstart⟩ := Runner.start_of_mem_childrenOf hchild
      exact Launch.library_of_start hstart

end EmacsBatch
