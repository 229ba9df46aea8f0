import EmacsBatch.Bytes.Utf8
import EmacsBatch.Hook

/-!
# Batch invocations

One call of a batch interpreter: the program, its arguments, and the environment variables
it is given on top of those it inherits. An invocation is built in steps, each of which
adds arguments or variables at the end, so that programs, directories and files are passed
on as they are, byte for byte.
-/

namespace EmacsBatch

/-- The environment variable that names the helper library. -/
def libraryVariable : String := "PRE_COMMIT_ELISP_LIB"

/-- A call of a batch interpreter. -/
structure Invocation where
  program : Bytes
  arguments : List Bytes
  assignments : List (Bytes × Bytes)
  deriving DecidableEq

namespace Invocation

/-- The flag that turns the interpreter's display off. -/
def batchFlag : Bytes := Utf8.encode "--batch"

/-- The option that adds a directory to the interpreter's load path. -/
def directoryFlag : Bytes := Utf8.encode "-L"

/-- The option that has the interpreter evaluate a form. -/
def evalFlag : Bytes := Utf8.encode "--eval"

/-- A call without work. -/
def batch (program : Bytes) : Invocation := ⟨program, [batchFlag], []⟩

/-- Add directories to the load path. -/
def loadPath (invocation : Invocation) (directories : List Bytes) : Invocation :=
  { invocation with
    arguments := directories.foldl (· ++ [directoryFlag, ·]) invocation.arguments }

/-- Evaluate a form. -/
def eval (invocation : Invocation) (form : Bytes) : Invocation :=
  { invocation with arguments := invocation.arguments ++ [evalFlag, form] }

/-- Visit files. -/
def files (invocation : Invocation) (names : List Bytes) : Invocation :=
  { invocation with arguments := invocation.arguments ++ names }

/-- Set an environment variable; an earlier pair of the same name is kept. -/
def setVariable (invocation : Invocation) (name value : Bytes) : Invocation :=
  { invocation with assignments := invocation.assignments ++ [(name, value)] }

/-- The program and its arguments. -/
def argv (invocation : Invocation) : List Bytes := invocation.program :: invocation.arguments

/-- The call that runs a hook over files. -/
def forHook (hook : Hook) (program library : Bytes) (directories names : List Bytes) :
    Invocation :=
  (((batch program).setVariable (Utf8.encode libraryVariable) library).loadPath directories)
    |>.eval (Utf8.encode hook.snippet)
    |>.files names

/-- One step in building an invocation. -/
inductive Step where
  | loadPath (directories : List Bytes)
  | eval (form : Bytes)
  | files (names : List Bytes)
  | setVariable (name value : Bytes)
  deriving DecidableEq

/-- The invocation after one more step. -/
def step (invocation : Invocation) : Step → Invocation
  | .loadPath directories => invocation.loadPath directories
  | .eval form => invocation.eval form
  | .files names => invocation.files names
  | .setVariable name value => invocation.setVariable name value

/-- The invocation after a row of steps. -/
def steps (invocation : Invocation) (steps : List Step) : Invocation :=
  steps.foldl step invocation

/-- The invocations before the first step and after each one. -/
def states (invocation : Invocation) : List Step → List Invocation
  | [] => [invocation]
  | next :: rest => invocation :: states (invocation.step next) rest

/-- The arguments that a step contributes. -/
def Step.arguments : Step → List Bytes
  | .loadPath directories => directories.flatMap fun directory => [directoryFlag, directory]
  | .eval form => [evalFlag, form]
  | .files names => names
  | .setVariable _ _ => []

/-- The environment variables that a step contributes. -/
def Step.assignments : Step → List (Bytes × Bytes)
  | .setVariable name value => [(name, value)]
  | _ => []

/-- Directories follow the earlier arguments, each behind its option. -/
theorem arguments_loadPath (invocation : Invocation) (directories : List Bytes) :
    (invocation.loadPath directories).arguments =
      invocation.arguments ++ directories.flatMap fun directory => [directoryFlag, directory] := by
  rw [loadPath]
  simp only []
  induction directories generalizing invocation with
  | nil => simp
  | cons directory directories ih =>
    have := ih { invocation with arguments := invocation.arguments ++ [directoryFlag, directory] }
    simpa using this

/-- No step changes the program. -/
theorem program_step (invocation : Invocation) (step : Step) :
    (invocation.step step).program = invocation.program := by
  cases step <;> rfl

/-- A step adds its own arguments at the end. -/
theorem arguments_step (invocation : Invocation) (step : Step) :
    (invocation.step step).arguments = invocation.arguments ++ step.arguments := by
  cases step with
  | loadPath directories => exact arguments_loadPath invocation directories
  | setVariable name value => exact (List.append_nil _).symm
  | _ => rfl

/-- A step adds its own variables at the end. -/
theorem assignments_step (invocation : Invocation) (step : Step) :
    (invocation.step step).assignments = invocation.assignments ++ step.assignments := by
  cases step with
  | setVariable name value => rfl
  | _ => exact (List.append_nil _).symm

/-- The call of a hook, written out. -/
theorem forHook_eq (hook : Hook) (program library : Bytes) (directories names : List Bytes) :
    forHook hook program library directories names =
      ⟨program,
        batchFlag :: (directories.flatMap fun directory => [directoryFlag, directory])
          ++ evalFlag :: Utf8.encode hook.snippet :: names,
        [(Utf8.encode libraryVariable, library)]⟩ := by
  simp [forHook, files, eval, arguments_loadPath, setVariable, batch]
  simp [loadPath]

end Invocation

end EmacsBatch
