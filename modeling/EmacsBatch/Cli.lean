import EmacsBatch.CommandLine.Help
import EmacsBatch.Doctor

/-!
# Commands

What a whole command does: it reads its command line, and either runs a hook or the doctor,
prints a page, or refuses the command line with exit status 2.
-/

namespace EmacsBatch

/-- The commands that can be called. -/
inductive Command where
  | hook (hook : Hook)
  | umbrella
  deriving DecidableEq

namespace Command

/-- The exit status after a wrong command line. -/
def usageStatus : Int := 2

/-- The name of a command. -/
def name : Command → String
  | hook target => target.name
  | umbrella => CommandLine.umbrellaName

/-- The command of a name. -/
def ofName? (word : String) : Option Command :=
  (Hook.all.map hook ++ [umbrella]).find? fun command => command.name = word

/-- Print a text and succeed. -/
def print (text : String) : Traced Int := do
  Traced.emit (.stdout text)
  return 0

/-- Refuse a command line with a line on the standard error. -/
def refuse (line : String) : Traced Int := do
  Traced.emit (.stderr line)
  return usageStatus

/-- The arguments of a hook in a command line. -/
def hookArguments (arguments : CommandLine.Arguments) : HookArguments :=
  ⟨arguments.files, arguments.settings⟩

/-- Run a hook's own command. -/
def runHook (target : Hook) (words : List Bytes) (fallback : Bytes) (runner : Runner)
    (world : World) : Traced Int :=
  match CommandLine.Shape.hookCommand.parse words with
  | .ok arguments => target.execute (hookArguments arguments) fallback runner world
  | .error (.wrong error) => refuse error.line
  | .error .help => print (CommandLine.Page.hookCommand target).text
  | .error .version => print (CommandLine.versionLine target.name)

/-- Run the umbrella command. -/
def runUmbrella (words : List Bytes) (fallback : Bytes) (runner : Runner) (world : World) :
    Traced Int :=
  match CommandLine.Umbrella.full.parse words with
  | .ok (.hook target arguments) =>
    target.execute (hookArguments arguments) fallback runner world
  | .ok (.doctor arguments) =>
    Doctor.execute arguments.settings arguments.json fallback world
  | .error (.wrong error) => refuse error.line
  | .error (.page page) => print page.text
  | .error .version => print (CommandLine.versionLine CommandLine.umbrellaName)
  | .error .noSubcommand => refuse CommandLine.umbrellaSummary

/-- Run a command with the words of its command line. -/
def run (command : Command) (words : List Bytes) (fallback : Bytes) (runner : Runner)
    (world : World) : Traced Int :=
  match command with
  | hook target => runHook target words fallback runner world
  | umbrella => runUmbrella words fallback runner world

end Command

end EmacsBatch
