import EmacsBatch.Failure
import EmacsBatch.Launch
import EmacsBatch.Lookup

/-!
# Runners

A runner makes the call of an invocation. One kind starts the interpreter as a child
process and turns the way it ends into success or a failure; the other only takes note of
the invocation and answers as it was told.
-/

namespace EmacsBatch

/-- The way in which invocations are carried out. -/
inductive Runner where
  /-- Start the interpreter and wait for its end. -/
  | process
  /-- Take note of the invocation, and answer with a failure or with success. -/
  | recorder (answer : Option Failure)
  deriving DecidableEq

namespace Runner

/-- An event of a run. -/
def event (program : String) (level : Log.Level) (message : String)
    (fields : List (String × String)) : Log.Event where
  level := level
  source := .runner
  message := message
  fields := fields
  run := some program

/-- A list of byte strings as it is shown in the log. -/
def shownList (items : List Bytes) : String :=
  "[" ++ ", ".intercalate (items.map Text.quotedBytes) ++ "]"

/-- What the end of the interpreter means. -/
def outcome (program : String) : Ending → Except Failure Unit
  | .exit status =>
    if status = 0 then .ok () else .error (.exited program (status.toNat : Int))
  | .signal number => .error (.terminated program (number.val : Int))

/-- What the log says about the end of the interpreter. -/
def endingEvent (program : String) : Ending → Log.Event
  | .exit status =>
    if status = 0 then event program .debug "Interpreter exited successfully" []
    else event program .warn "Interpreter exited with failure" [("code", toString status.toNat)]
  | .signal number =>
    event program .warn "Interpreter terminated by signal" [("signal", toString number.val)]

/-- Find the program of an invocation. -/
def locate (world : World) (invocation : Invocation) : Traced (Except Failure Bytes) :=
  let program := Utf8.lossy invocation.program
  match Lookup.locate world invocation.program with
  | .ok path => return .ok path
  | .error error => do
    Traced.log (event program .debug "Interpreter lookup failed" [("error", error.message)])
    return .error (.interpreterNotFound program)

/-- Start the interpreter at a path and wait for its end. -/
def runAt (world : World) (invocation : Invocation) (path : Bytes) :
    Traced (Except Failure Unit) := do
  let program := Utf8.lossy invocation.program
  Traced.log (event program .debug "Running interpreter"
    [("executable", Utf8.lossy path), ("argv", shownList invocation.argv)])
  match Launch.start world path invocation.arguments invocation.assignments with
  | .error cause => return .error (.launch program cause)
  | .ok child =>
    Traced.emit (.child child)
    Traced.log (endingEvent program child.program.ending)
    return outcome program child.program.ending

/-- Make the call of an invocation. -/
def run (runner : Runner) (world : World) (invocation : Invocation) :
    Traced (Except Failure Unit) := do
  Traced.emit (.call invocation)
  match runner with
  | .recorder (some failure) => return .error failure
  | .recorder none => return .ok ()
  | .process =>
    match ← locate world invocation with
    | .error failure => return .error failure
    | .ok path => runAt world invocation path

end Runner

end EmacsBatch
