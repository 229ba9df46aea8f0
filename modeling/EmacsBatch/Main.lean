import EmacsBatch.Cli

/-!
# The executable

A dry run of the commands against the real environment and the real file system. The files
that a command can depend on are looked at first; then the command is run on what was seen.
Calls of the interpreter are printed, one on a line, and left to the caller to make, and the
doctor does not ask for a version.

The first word may name a hook's own command; otherwise all words belong to the umbrella
command.
-/

namespace EmacsBatch

/-- The variables that commands look at. -/
def knownVariables : List String :=
  [libraryVariable, emacsVariable, loadPathVariable, logVariable, Log.filterVariable,
    Lookup.searchVariable, Lookup.homeVariable]

/-- The environment, as far as commands look at it. -/
def readEnvironment : IO Environment := do
  let mut environment : Environment := ⟨[]⟩
  for name in knownVariables do
    if let some value ← IO.getEnv name then
      environment := environment.set (Utf8.encode name) (Utf8.encode value)
  return environment

/-- Look at one path, and add what is there to a world. -/
def look (here : Bytes) (world : World) (path : Bytes) : IO World := do
  let absolute := Path.join here path
  let file := (← IO.currentDir) / Utf8.lossy absolute
  let place := world.tree.placeOf [] (Path.names absolute)
  if ← file.isDir then return world.put place .directory
  else if ← file.pathExists then
    return world.put place (.file (← IO.FS.readBinFile file).toList true)
  else return world

/-- The flags in the words of a command line, or none where the words are wrong. -/
def Command.settings (command : Command) (words : List Bytes) : Settings :=
  match command with
  | .hook _ =>
    match CommandLine.Shape.hookCommand.parse words with
    | .ok arguments => arguments.settings
    | .error _ => {}
  | .umbrella =>
    match CommandLine.Umbrella.full.parse words with
    | .ok (.hook _ arguments) | .ok (.doctor arguments) => arguments.settings
    | .error _ => {}

/-- The paths that matter once a configuration is loaded. -/
def Config.neededPaths (config : Config) (fallback : Bytes) (world : World) : List Bytes :=
  (config.locator fallback).candidates
    ++ ((Lookup.candidates world (Utf8.encode config.emacs)).toOption.getD [])

/-- Write what a command wrote, and then the calls it made. -/
def present (world : World) (trace : List Effect) : IO Unit := do
  (← IO.getStderr).write ⟨(loggedStderrOf world.environment none trace).toArray⟩
  (← IO.getStdout).write ⟨(stdoutOf trace).toArray⟩
  for invocation in callsOf trace do
    IO.println (Runner.shownList invocation.argv)

/-- Run the command that some words name on the world as it is. -/
def runWords (command : Command) (words : List Bytes) : IO UInt32 := do
  let here := Utf8.encode (← IO.currentDir).toString
  let fallback := Utf8.encode ((← IO.appPath).withFileName "pre-commit-elisp.el").toString
  let empty : FileTree := ⟨[]⟩
  let place := empty.placeOf [] (Path.names here)
  let bare : World := ⟨empty.put place .directory, ← readEnvironment, ⟨place, 0⟩⟩
  let settings := command.settings words
  let world ← look here bare (settings.configFile.getD (Config.filePath here))
  let needed := match settings.loadConfig world here with
    | .ok config => config.neededPaths fallback world
    | .error _ => []
  let world ← needed.foldlM (look here) world
  let done := command.run words fallback (.recorder none) world
  present world done.trace
  return done.value.toNat.toUInt32

end EmacsBatch

/-- The program: its words, with a hook's own command first or without. -/
def main (arguments : List String) : IO UInt32 := do
  let words := arguments.map EmacsBatch.Utf8.encode
  match (arguments.head?.bind EmacsBatch.Command.ofName?) with
  | some command => EmacsBatch.runWords command words.tail
  | none => EmacsBatch.runWords .umbrella words
