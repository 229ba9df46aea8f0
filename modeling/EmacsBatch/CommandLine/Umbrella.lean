import EmacsBatch.CommandLine.Options
import EmacsBatch.Hook

/-!
# Subcommands

One command stands in front of all hooks and the doctor. Its first word chooses the
subcommand, which reads the rest as a command line of its own. The word `help` names a page
instead, and the command has a help page itself, in a short and a long form.
-/

namespace EmacsBatch.CommandLine

/-- A page of help. -/
inductive Page where
  /-- The page of a hook's own command. -/
  | hookCommand (hook : Hook)
  | hookSubcommand (hook : Hook)
  | doctor
  /-- The page of the `help` subcommand. -/
  | help
  | short
  | long
  deriving DecidableEq

/-- What the umbrella command is asked to run. -/
inductive Request where
  | hook (hook : Hook) (arguments : Arguments)
  | doctor (arguments : Arguments)
  deriving DecidableEq

/-- Why the umbrella command runs nothing. -/
inductive Refusal where
  | wrong (error : UsageError)
  | page (page : Page)
  | version
  /-- No subcommand is named. -/
  | noSubcommand
  deriving DecidableEq

/-- Which subcommands and flags the umbrella has besides the hooks and `help`. -/
structure Umbrella where
  hasDoctor : Bool
  hasVersion : Bool

/-- The umbrella command with all its subcommands. -/
def Umbrella.full : Umbrella := ⟨true, true⟩

/-- The umbrella command with the hooks alone. -/
def Umbrella.hooksOnly : Umbrella := ⟨false, false⟩

/-- A subcommand. -/
inductive Subcommand where
  | hook (hook : Hook)
  | doctor
  | help
  deriving DecidableEq

/-- The word for a subcommand. -/
def Subcommand.name : Subcommand → String
  | .hook target => target.subcommand
  | .doctor => "doctor"
  | .help => "help"

/-- The help page of a subcommand. -/
def Subcommand.page : Subcommand → Page
  | .hook target => .hookSubcommand target
  | .doctor => .doctor
  | .help => .help

/-- The subcommands of an umbrella, in the order in which they are listed. -/
def Umbrella.subcommands (umbrella : Umbrella) : List Subcommand :=
  Hook.all.map .hook ++ (if umbrella.hasDoctor then [.doctor] else []) ++ [.help]

/-- The subcommand that a word names. -/
def Umbrella.subcommand? (umbrella : Umbrella) (word : Bytes) : Option Subcommand :=
  umbrella.subcommands.find? fun subcommand => Utf8.encode subcommand.name = word

/-- The umbrella's refusal when a subcommand's own command line stops. -/
def Stop.refusal (page : Page) : Stop → Refusal
  | .wrong error => .wrong error
  | .help => .page page
  | .version => .version

/-- The page that the words after `help` ask for; subcommands have none of their own. -/
def Umbrella.helpPage (umbrella : Umbrella) : List Bytes → Refusal
  | [] => .page .long
  | word :: rest =>
    match umbrella.subcommand? word, rest with
    | none, _ => .wrong (.unknownSubcommand (Utf8.lossy word))
    | some subcommand, [] => .page subcommand.page
    | some _, next :: _ => .wrong (.unknownSubcommand (Utf8.lossy next))

/-- Have a subcommand read the rest of the command line. -/
def Umbrella.dispatch (umbrella : Umbrella) (subcommand : Subcommand) (rest : List Bytes) :
    Except Refusal Request :=
  match subcommand with
  | .hook hook =>
    match Shape.hookSubcommand.parse rest with
    | .ok arguments => .ok (.hook hook arguments)
    | .error stop => .error (stop.refusal subcommand.page)
  | .doctor =>
    match Shape.doctor.parse rest with
    | .ok arguments => .ok (.doctor arguments)
    | .error stop => .error (stop.refusal subcommand.page)
  | .help => .error (umbrella.helpPage rest)

/-- The flag that a name after two hyphens stands for before any subcommand. -/
def Umbrella.named? (umbrella : Umbrella) (name : Bytes) : Option (Switch × Refusal) :=
  if name = Utf8.encode Switch.help.name then some (.help, .page .long)
  else if umbrella.hasVersion ∧ name = Utf8.encode Switch.version.name then
    some (.version, .version)
  else none

/-- The refusal for letters after one hyphen before any subcommand; the first decides. -/
def Umbrella.letters (umbrella : Umbrella) (letters : Bytes) : Refusal :=
  if letters.head? = Switch.help.letter? then .page .short
  else if umbrella.hasVersion ∧ letters.head? = Switch.version.letter? then .version
  else .wrong (.unknownArgument (shownLetter letters))

/-- The refusal for the words after the end of the options, where no subcommand counts. -/
def Umbrella.trailing (umbrella : Umbrella) : List Bytes → Refusal
  | [] => .noSubcommand
  | word :: _ =>
    if (umbrella.subcommand? word).isSome then .wrong (.unknownArgument (Utf8.lossy word))
    else .wrong (.unknownSubcommand (Utf8.lossy word))

/-- What the words of the umbrella's command line ask for. -/
def Umbrella.parse (umbrella : Umbrella) : List Bytes → Except Refusal Request
  | [] => .error .noSubcommand
  | word :: rest =>
    match Word.ofBytes word with
    | .endOfOptions => .error (umbrella.trailing rest)
    | .named name value =>
      match umbrella.named? name, value with
      | none, _ => .error (.wrong (.unknownArgument ("--" ++ Utf8.lossy name)))
      | some (_, refusal), none => .error refusal
      | some (switch, _), some value =>
        .error (.wrong (.unexpectedValue (Utf8.lossy value) (.flag switch)))
    | .letters letters => .error (umbrella.letters letters)
    | .other word =>
      match umbrella.subcommand? word with
      | some subcommand => umbrella.dispatch subcommand rest
      | none => .error (.wrong (.unknownSubcommand (Utf8.lossy word)))

end EmacsBatch.CommandLine
