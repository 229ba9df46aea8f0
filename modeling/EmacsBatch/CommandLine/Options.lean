import EmacsBatch.CommandLine.Usage
import EmacsBatch.Settings

/-!
# Options and files

The command line of a single command, read from left to right. The word before the current
one may still be incomplete: an option that waits for its value, an option whose value was
a word of its own, or a run of files. What is incomplete is completed by the next option or
flag that is known, by a file after an option, or at the end, and only then can it turn out
to be wrong. An unknown option is therefore reported before an earlier incomplete one.
-/

namespace EmacsBatch.CommandLine

/-- What a command line gives to a command. -/
structure Arguments where
  files : List Bytes := []
  settings : Settings := {}
  json : Bool := false
  deriving DecidableEq

/-- Which parameters a command knows besides the settings, `--verbose` and `--help`. -/
structure Shape where
  takesFiles : Bool
  hasJson : Bool
  hasVersion : Bool

/-- The shape of a hook's own command. -/
def Shape.hookCommand : Shape := ⟨true, false, true⟩

/-- The shape of a hook as a subcommand. -/
def Shape.hookSubcommand : Shape := ⟨true, false, false⟩

/-- The shape of the doctor subcommand. -/
def Shape.doctor : Shape := ⟨false, true, false⟩

/-- Why a command line does not lead to a run of the command. -/
inductive Stop where
  | wrong (error : UsageError)
  | help
  | version
  deriving DecidableEq

/-- The byte that begins options. -/
def hyphen : UInt8 := 0x2D

/-- The byte between an option and an attached value. -/
def equals : UInt8 := 0x3D

/-- The settings that can be given. -/
def Setting.all : List Setting := [.library, .emacs, .directory, .configFile]

/-- The flags that a command knows. -/
def Shape.switches (shape : Shape) : List Switch :=
  [.verbose, .help] ++ (if shape.hasJson then [.json] else [])
    ++ (if shape.hasVersion then [.version] else [])

/-- The letter of a flag, if it has one. -/
def Switch.letter? : Switch → Option UInt8
  | .verbose => some 0x76
  | .help => some 0x68
  | .version => some 0x56
  | .json => none

/-- The letter of the option that names a directory. -/
def directoryLetter : UInt8 := 0x4C

/-- The option or flag that a name after two hyphens stands for. -/
def Shape.named? (shape : Shape) (name : Bytes) : Option (Setting ⊕ Switch) :=
  (Setting.all.find? fun setting => Utf8.encode setting.name = name).map .inl
    <|> (shape.switches.find? fun switch => Utf8.encode switch.name = name).map .inr

/-- The flag that a letter after one hyphen stands for. -/
def Shape.lettered? (shape : Shape) (letter : UInt8) : Option Switch :=
  shape.switches.find? fun switch => switch.letter? = some letter

/-- The last word of the part read so far, if it is incomplete. -/
inductive Pending where
  | nothing
  /-- An option that waits for its value. -/
  | awaiting (setting : Setting)
  /-- An option and its value, which was a word of its own. -/
  | holding (setting : Setting) (value : Bytes)
  /-- A run of files. -/
  | run (names : List Bytes)
  deriving DecidableEq

/-- What a part of a command line has given. -/
structure State where
  taken : Arguments := {}
  pending : Pending := .nothing
  deriving DecidableEq

/-- A value that is a path, which may not be empty. -/
def nonempty (setting : Setting) (value : Bytes) : Except Stop Bytes :=
  if value = [] then .error (.wrong (.missingValue (.valued setting))) else .ok value

/-- The arguments with one more setting; only directories can be given repeatedly. -/
def Arguments.assign (taken : Arguments) (setting : Setting) (value : Bytes) :
    Except Stop Arguments :=
  let settings := taken.settings
  let again : Except Stop Arguments := .error (.wrong (.repeated (.valued setting)))
  match setting with
  | .library =>
    if settings.library.isSome then again
    else (nonempty setting value).map fun path =>
      { taken with settings := { settings with library := some path } }
  | .emacs =>
    if settings.emacs.isSome then again
    else match Utf8.decode? value with
      | none => .error (.wrong .notText)
      | some program => .ok { taken with settings := { settings with emacs := some program } }
  | .directory =>
    (nonempty setting value).map fun path =>
      { taken with settings := { settings with loadPath := settings.loadPath ++ [path] } }
  | .configFile =>
    if settings.configFile.isSome then again
    else (nonempty setting value).map fun path =>
      { taken with settings := { settings with configFile := some path } }

/-- The arguments with a run of files added. -/
def Arguments.addFiles (taken : Arguments) (names : List Bytes) : Except Stop Arguments :=
  if [] ∈ names then .error (.wrong (.missingValue .files))
  else .ok { taken with files := taken.files ++ names }

/-- The arguments once the last word is completed. -/
def State.settle (state : State) : Except Stop Arguments :=
  match state.pending with
  | .nothing => .ok state.taken
  | .awaiting setting => .error (.wrong (.missingValue (.valued setting)))
  | .holding setting value => state.taken.assign setting value
  | .run names => state.taken.addFiles names

/-- The arguments with a flag turned on; help and version end the reading. -/
def Arguments.turnOn (taken : Arguments) (switch : Switch) : Except Stop Arguments :=
  let again : Except Stop Arguments := .error (.wrong (.repeated (.flag switch)))
  match switch with
  | .verbose =>
    if taken.settings.verbose then again
    else .ok { taken with settings := { taken.settings with verbose := true } }
  | .json => if taken.json then again else .ok { taken with json := true }
  | .help => .error .help
  | .version => .error .version

/-- Read a word that is no option. -/
def State.word (shape : Shape) (state : State) (word : Bytes) : Except Stop State :=
  match state.pending with
  | .awaiting setting => .ok { state with pending := .holding setting word }
  | .run names => .ok { state with pending := .run (names ++ [word]) }
  | _ =>
    if shape.takesFiles then do
      let taken ← state.settle
      return ⟨taken, .run [word]⟩
    else .error (.wrong (.unknownArgument (Utf8.lossy word)))

/-- Read an option or flag by its name, with the value that is attached to it, if any. -/
def State.named (shape : Shape) (state : State) (name : Bytes) (value : Option Bytes) :
    Except Stop State :=
  match shape.named? name, value with
  | none, _ => .error (.wrong (.unknownArgument ("--" ++ Utf8.lossy name)))
  | some (.inl setting), none => do
    let taken ← state.settle
    return ⟨taken, .awaiting setting⟩
  | some (.inl setting), some value => do
    let taken ← state.settle
    let taken ← taken.assign setting value
    return ⟨taken, .nothing⟩
  | some (.inr switch), none => do
    let taken ← state.settle
    let taken ← taken.turnOn switch
    return ⟨taken, .nothing⟩
  | some (.inr switch), some value =>
    .error (.wrong (.unexpectedValue (Utf8.lossy value) (.flag switch)))

/-- A value attached to a letter, without one equals sign in front of it. -/
def attachedValue (value : Bytes) : Bytes :=
  if value.head? = some equals then value.tail else value

/-- The way an unknown letter is shown, or all the bytes left if they begin with none. -/
def shownLetter (rest : Bytes) : String :=
  match Utf8.pieces rest with
  | .char c :: _ => String.ofList ['-', c]
  | _ => "-" ++ Utf8.lossy rest

/-- Read letters that stand together after one hyphen. -/
def State.letters (shape : Shape) (state : State) : Bytes → Except Stop State
  | [] => .ok state
  | letter :: rest =>
    if letter = directoryLetter then do
      let taken ← state.settle
      if rest = [] then return ⟨taken, .awaiting .directory⟩
      let taken ← taken.assign .directory (attachedValue rest)
      return ⟨taken, .nothing⟩
    else match shape.lettered? letter with
      | some switch => do
        let taken ← state.settle
        let taken ← taken.turnOn switch
        State.letters shape ⟨taken, .nothing⟩ rest
      | none => .error (.wrong (.unknownArgument (shownLetter (letter :: rest))))

/-- The forms that a word of a command line can have. -/
inductive Word where
  /-- Two hyphens, which end the options. -/
  | endOfOptions
  | named (name : Bytes) (value : Option Bytes)
  | letters (letters : Bytes)
  | other (word : Bytes)
  deriving DecidableEq

/-- The form of a word; a lone hyphen is no option. -/
def Word.ofBytes (word : Bytes) : Word :=
  match word with
  | first :: second :: rest =>
    if first ≠ hyphen then .other word
    else if second ≠ hyphen then .letters (second :: rest)
    else if rest = [] then .endOfOptions
    else
      let split := Bytes.splitOnce equals rest
      .named split.1 split.2
  | _ => .other word

/-- Read the words after the end of the options, all of which are files. -/
def State.trailing (shape : Shape) (state : State) (words : List Bytes) :
    Except Stop State :=
  match words with
  | [] => .ok state
  | first :: _ =>
    if !shape.takesFiles then .error (.wrong (.unknownArgument (Utf8.lossy first)))
    else match state.pending with
      | .run names => .ok { state with pending := .run (names ++ words) }
      | _ => do
        let taken ← state.settle
        return ⟨taken, .run words⟩

/-- Read the words of a command line. -/
def State.words (shape : Shape) (state : State) : List Bytes → Except Stop State
  | [] => .ok state
  | word :: rest => do
    match Word.ofBytes word with
    | .endOfOptions => state.trailing shape rest
    | .named name value => State.words shape (← state.named shape name value) rest
    | .letters letters => State.words shape (← state.letters shape letters) rest
    | .other word => State.words shape (← state.word shape word) rest

/-- What the words of a command line give to a command. -/
def Shape.parse (shape : Shape) (words : List Bytes) : Except Stop Arguments := do
  let state ← State.words shape {} words
  state.settle

end EmacsBatch.CommandLine
