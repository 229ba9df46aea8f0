import EmacsBatch.Config.Load
import EmacsBatch.Library
import EmacsBatch.Runner

/-!
# Running hooks

A hook is run in stages: the configuration is loaded for the working directory, the helper
library is found, and unless there is nothing to check, one invocation is handed to the
runner. The first stage that fails decides; its failure is reported on the standard error
and gives the exit status.
-/

namespace EmacsBatch

/-- What a hook needs to know about its surroundings. -/
structure Context where
  emacs : String
  library : Bytes
  loadPath : List Bytes
  deriving DecidableEq

/-- The context under a configuration, once the helper library is found. -/
def Context.resolve (config : Config) (locator : LibraryLocator) (world : World) :
    Traced (Except Failure Context) := do
  match ← locator.resolve world with
  | .error failure => return .error failure
  | .ok library => return .ok ⟨config.emacs, library, config.loadPath⟩

/-- The locator of a configured library with a fallback. -/
def Config.locator (config : Config) (fallback : Bytes) : LibraryLocator :=
  ⟨config.library, fallback⟩

/-- The files and flags that a hook is called with. -/
structure HookArguments where
  files : List Bytes := []
  settings : Settings := {}
  deriving DecidableEq

namespace Hook

/-- The invocation that runs a hook over files in a context. -/
def invocation (hook : Hook) (context : Context) (files : List Bytes) : Invocation :=
  Invocation.forHook hook (Utf8.encode context.emacs) context.library context.loadPath files

/-- Run a hook over files in a context; with no files there is nothing to do. -/
def run (hook : Hook) (files : List Bytes) (context : Context) (runner : Runner)
    (world : World) : Traced (Except Failure Unit) :=
  if files = [] then do
    Traced.log { level := .debug, source := .hooks, message := "No files to check",
                 fields := [("hook", hook.name)] }
    return .ok ()
  else do
    Traced.log { level := .info, source := .hooks, message := "Running hook",
                 fields := [("hook", hook.name), ("files", toString files.length)] }
    runner.run world (hook.invocation context files)

/-- Run a hook with everything that comes before it. -/
def attempt (hook : Hook) (arguments : HookArguments) (fallback : Bytes) (runner : Runner)
    (world : World) : Traced (Except Failure Unit) :=
  match world.currentDirectory with
  | .error cause => return .error (.io cause)
  | .ok directory =>
    match arguments.settings.loadConfig world directory with
    | .error failure => return .error failure
    | .ok config => do
      Traced.emit (.logging config.logLevel)
      match ← Context.resolve config (config.locator fallback) world with
      | .error failure => return .error failure
      | .ok context => hook.run arguments.files context runner world

/-- The line on the standard error that reports a failure. -/
def reportLine (message : String) : String := "Error: " ++ message ++ "\n"

/-- Report a failure. -/
def report (hook : Hook) (failure : Failure) : Traced Unit := do
  Traced.log { level := .debug, source := .entry, message := "Hook failed",
               fields := [("hook", hook.name),
                 ("configuration", if failure.isConfiguration then "true" else "false")] }
  Traced.emit (.stderr (reportLine failure.message))

/-- The exit status of a hook, with all that it does on the way. -/
def execute (hook : Hook) (arguments : HookArguments) (fallback : Bytes) (runner : Runner)
    (world : World) : Traced Int := do
  match ← hook.attempt arguments fallback runner world with
  | .ok () => return 0
  | .error failure =>
    hook.report failure
    return failure.exitCode

end Hook

end EmacsBatch
