import EmacsBatch.Log.Level

/-!
# Log events

An event has a level, the part of the program it comes from, a message and named values.
Events of a run of the interpreter also carry the name of the program that is run.
-/

namespace EmacsBatch.Log

/-- The parts of the program that log. -/
inductive Source where
  /-- The search for the helper library. -/
  | library
  /-- The run of an interpreter. -/
  | runner
  /-- The choice of what a hook has to do. -/
  | hooks
  /-- The outcome of a hook. -/
  | entry
  deriving DecidableEq

/-- The name by which filters know a part of the program. -/
def Source.target : Source → String
  | .library => "elisp_hooks_core::library"
  | .runner => "elisp_hooks_core::runner"
  | .hooks => "elisp_hooks"
  | .entry => "elisp_hooks::entry"

/-- Something that can be logged. -/
structure Event where
  level : Level
  source : Source
  message : String
  fields : List (String × String) := []
  /-- The program of the run that the event belongs to. -/
  run : Option String := none
  deriving DecidableEq

/-- The word for a level at the front of a line. -/
def Level.label : Level → String
  | .error => "ERROR"
  | .warn => " WARN"
  | .info => " INFO"
  | .debug => "DEBUG"
  | .trace => "TRACE"

/-- A named value with the space before it. -/
def fieldText (field : String × String) : String := " " ++ field.1 ++ "=" ++ field.2

/-- The line of an event; the run it belongs to is named only if `showRun` holds. -/
def Event.line (event : Event) (showRun : Bool) : String :=
  let run := if showRun then event.run else none
  event.level.label ++ " " ++ (if run.isSome then "run: " else "") ++ event.message
    ++ String.join (event.fields.map fieldText)
    ++ ((run.map fun program => fieldText ("program", program)).getD "") ++ "\n"

end EmacsBatch.Log
