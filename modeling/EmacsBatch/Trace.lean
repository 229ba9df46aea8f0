import EmacsBatch.Invocation
import EmacsBatch.Log.Filter
import EmacsBatch.World

/-!
# Traces

Running a command leaves a trace: what it logged, which invocations it made, which children
ran, and what it wrote. The computation itself is a value with the trace that leads to it,
so the order of all effects can be compared.
-/

namespace EmacsBatch

/-- A child process that was started. -/
structure Child where
  /-- The path of the program that was executed. -/
  executable : Bytes
  arguments : List Bytes
  /-- All the variables that the child sees. -/
  environment : Environment
  program : Program
  deriving DecidableEq

/-- One effect of a command. -/
inductive Effect where
  /-- An event was offered to the log. -/
  | event (event : Log.Event)
  /-- The log was set up with a level. -/
  | logging (level : String)
  /-- A runner was asked to make a call. -/
  | call (invocation : Invocation)
  /-- A child ran and wrote to the outputs of the command. -/
  | child (child : Child)
  /-- A child ran and its outputs were kept from those of the command. -/
  | capturedChild (child : Child)
  /-- The command wrote to its standard output. -/
  | stdout (text : String)
  /-- The command wrote to its standard error. -/
  | stderr (text : String)
  deriving DecidableEq

/-- A value with the effects that led to it, in order. -/
structure Traced (α : Type) where
  value : α
  trace : List Effect

namespace Traced

/-- A value without effects. -/
def pure {α : Type} (value : α) : Traced α := ⟨value, []⟩

/-- Go on with a value; the effects follow each other. -/
def bind {α β : Type} (first : Traced α) (next : α → Traced β) : Traced β :=
  let second := next first.value
  ⟨second.value, first.trace ++ second.trace⟩

instance : Monad Traced where
  pure := Traced.pure
  bind := Traced.bind

/-- One effect. -/
def emit (effect : Effect) : Traced Unit := ⟨(), [effect]⟩

/-- One event. -/
def log (event : Log.Event) : Traced Unit := emit (.event event)

@[simp]
theorem value_pure {α : Type} (a : α) : (Pure.pure a : Traced α).value = a := rfl

@[simp]
theorem trace_pure {α : Type} (a : α) : (Pure.pure a : Traced α).trace = [] := rfl

@[simp]
theorem value_bind {α β : Type} (x : Traced α) (f : α → Traced β) :
    (x >>= f).value = (f x.value).value := rfl

@[simp]
theorem trace_bind {α β : Type} (x : Traced α) (f : α → Traced β) :
    (x >>= f).trace = x.trace ++ (f x.value).trace := rfl

@[simp]
theorem trace_emit (effect : Effect) : (emit effect).trace = [effect] := rfl

@[simp]
theorem trace_log (event : Log.Event) : (log event).trace = [.event event] := rfl

end Traced

/-- The children that ran, in order. -/
def childrenOf (trace : List Effect) : List Child :=
  trace.filterMap fun
    | .child child | .capturedChild child => some child
    | _ => none

/-- The invocations that a runner was asked for, in order. -/
def callsOf (trace : List Effect) : List Invocation :=
  trace.filterMap fun
    | .call invocation => some invocation
    | _ => none

/-- The bytes that an effect adds to the standard output. -/
def Effect.stdoutBytes : Effect → Bytes
  | .child started => started.program.stdout
  | .stdout text => Utf8.encode text
  | _ => []

/-- The bytes that a command wrote to its standard output. -/
def stdoutOf (trace : List Effect) : Bytes := trace.flatMap Effect.stdoutBytes

/-- The bytes that an effect adds to the standard error when nothing is logged. -/
def Effect.stderrBytes : Effect → Bytes
  | .child started => started.program.stderr
  | .stderr text => Utf8.encode text
  | _ => []

/-- The bytes that a command wrote to its standard error when nothing is logged. -/
def stderrOf (trace : List Effect) : Bytes := trace.flatMap Effect.stderrBytes

/-- The bytes that a command wrote to its standard error, with the log lines that a filter
shows; there is no filter before the log is set up. -/
def loggedStderrOf (environment : Environment) (filter : Option Log.Filter) :
    List Effect → Bytes
  | [] => []
  | .logging level :: rest =>
    loggedStderrOf environment (filter <|> some (Log.Filter.effective environment level)) rest
  | .event event :: rest =>
    ((filter.map fun filter => Utf8.encode (filter.text event)).getD [])
      ++ loggedStderrOf environment filter rest
  | effect :: rest => effect.stderrBytes ++ loggedStderrOf environment filter rest

end EmacsBatch
