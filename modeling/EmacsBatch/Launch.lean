import EmacsBatch.Launch.Script
import EmacsBatch.Trace

/-!
# Starting programs

A program is started with arguments and with environment variables on top of the inherited
ones. A script is started by starting the program that it names, which gets the script's
path before the arguments. That program may be a script again, but not too often.
-/

namespace EmacsBatch.Launch

/-- What can be executed. -/
inductive Image where
  | program (program : Program)
  /-- A file that is no program, with its content. -/
  | content (bytes : Bytes)

/-- What a path leads to, if it may be executed. -/
def openImage (world : World) (path : Bytes) : Except SystemError Image :=
  match world.lookup path with
  | .error cause => .error cause
  | .ok (.program program) => .ok (.program program)
  | .ok (.file content true) => .ok (.content content)
  | .ok _ => .error .noPermission

/-- The number of scripts that may name each other before a program is found. -/
def scriptLimit : Nat := 5

/-- Execute what a path leads to; the environment is complete.

When there are too many scripts, what the last of them names must still be there. -/
def execute (world : World) (environment : Environment) (limit : Nat) (path : Bytes)
    (arguments : List Bytes) : Except SystemError Child :=
  match openImage world path with
  | .error cause => .error cause
  | .ok (.program program) => .ok ⟨path, arguments, environment, program⟩
  | .ok (.content content) =>
    match Script.ofContent? content, limit with
    | none, _ => .error .execFormat
    | some script, 0 => do
      let _ ← openImage world script.interpreter
      throw .tooManyLinks
    | some script, limit + 1 =>
      execute world environment limit script.interpreter
        (script.argument.toList ++ path :: arguments)

/-- Start a program with arguments and further environment variables. A relative path is
seen from the working directory even if it has only one name, and is passed on in that
form. -/
def start (world : World) (executable : Bytes) (arguments : List Bytes)
    (assignments : List (Bytes × Bytes)) : Except SystemError Child :=
  let environment := world.environment.overlay assignments
  if arguments.any Bytes.hasNul
      || environment.entries.any fun entry => Bytes.hasNul entry.1 || Bytes.hasNul entry.2 then
    .error .nulInData
  else execute world environment scriptLimit (Path.join Path.dot executable) arguments

end EmacsBatch.Launch
