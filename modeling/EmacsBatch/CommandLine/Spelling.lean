import EmacsBatch.CommandLine.Options

/-!
# Spellings of a hook's command line

The same files and settings can be written in many ways: options before or after files,
values attached or apart, letters together or alone. This module says which rows of words
are spellings of which files and settings, without reading any words, and gives one
canonical spelling.

Requests for help and for the version are not spellings of anything.
-/

namespace EmacsBatch.CommandLine

/-- One thing that a command line gives. -/
inductive Item where
  | file (name : Bytes)
  | library (path : Bytes)
  | emacs (program : String)
  | directory (path : Bytes)
  | configFile (path : Bytes)
  | verbose
  deriving DecidableEq

namespace Item

/-- The setting and the value that an item gives, unless it is a file or a flag. -/
def valued? : Item → Option (Setting × Bytes)
  | library path => some (.library, path)
  | emacs program => some (.emacs, Utf8.encode program)
  | directory path => some (.directory, path)
  | configFile path => some (.configFile, path)
  | _ => none

/-- Whether no path of the item is empty; the name of an interpreter may be. -/
def Acceptable : Item → Prop
  | file path | library path | directory path | configFile path => path ≠ []
  | emacs _ | verbose => True

/-- The name of a file, if the item is one. -/
def file? : Item → Option Bytes
  | file name => some name
  | _ => none

/-- The path of the library, if the item gives it. -/
def library? : Item → Option Bytes
  | library path => some path
  | _ => none

/-- The name of the interpreter, if the item gives it. -/
def emacs? : Item → Option String
  | emacs program => some program
  | _ => none

/-- A directory, if the item gives one. -/
def directory? : Item → Option Bytes
  | directory path => some path
  | _ => none

/-- The path of the configuration file, if the item gives it. -/
def configFile? : Item → Option Bytes
  | configFile path => some path
  | _ => none

end Item

/-- Whether a word on its own is a file or a value: it does not begin with a hyphen, unless
it is nothing else. -/
def IsPlain (word : Bytes) : Prop := word.head? ≠ some hyphen ∨ word = [hyphen]

/-- A name after two hyphens. -/
def longWord (name : String) : Bytes := hyphen :: hyphen :: Utf8.encode name

/-- A letter after one hyphen, with what follows it. -/
def letterWord (letter : UInt8) (rest : Bytes) : Bytes := hyphen :: letter :: rest

/-- The letter that stands for verbose. -/
def verboseLetter : UInt8 := 0x76

/-- The ways to write a directory after its letter: apart, behind an equals sign, or at
once if the directory does not begin with that sign. -/
inductive LetterForm (path : Bytes) : Bytes → List Bytes → Prop where
  | apart (plain : IsPlain path) : LetterForm path [] [path]
  | behindEquals : LetterForm path (equals :: path) []
  | attached (nonempty : path ≠ []) (other : path.head? ≠ some equals) : LetterForm path path []

/-- The words before the end of the options that spell a row of items. -/
inductive Spells : List Item → List Bytes → Prop where
  | nil : Spells [] []
  | file {items words} (name : Bytes) (plain : IsPlain name) :
    Spells items words → Spells (.file name :: items) (name :: words)
  | attached {items words} (item : Item) (setting : Setting) (value : Bytes)
    (gives : item.valued? = some (setting, value)) :
    Spells items words →
      Spells (item :: items) ((longWord setting.name ++ equals :: value) :: words)
  | apart {items words} (item : Item) (setting : Setting) (value : Bytes)
    (gives : item.valued? = some (setting, value)) (plain : IsPlain value) :
    Spells items words → Spells (item :: items) (longWord setting.name :: value :: words)
  | letter {items words} (path : Bytes) (rest : Bytes) (more : List Bytes)
    (form : LetterForm path rest more) :
    Spells items words →
      Spells (.directory path :: items) (letterWord directoryLetter rest :: (more ++ words))
  | verbose {items words} :
    Spells items words → Spells (.verbose :: items) (longWord Switch.verbose.name :: words)
  | verboseLetter {items words} :
    Spells items words → Spells (.verbose :: items) (letterWord verboseLetter [] :: words)
  | together {items words} (path : Bytes) (rest : Bytes) (more : List Bytes)
    (form : LetterForm path rest more) :
    Spells items words →
      Spells (.verbose :: .directory path :: items)
        (letterWord verboseLetter (directoryLetter :: rest) :: (more ++ words))

/-- The items of a whole command line: those before the end of the options, and the files
after it. -/
inductive SpellsAll : List Item → List Bytes → Prop where
  | open {items words} : Spells items words → SpellsAll items words
  | closed {items words} (names : List Bytes) :
    Spells items words →
      SpellsAll (items ++ names.map .file) (words ++ (longWord "" :: names))

/-- What a row of items gives together. -/
def Arguments.ofItems (items : List Item) : Arguments where
  files := items.filterMap Item.file?
  settings :=
    { library := items.findSome? Item.library?
      emacs := items.findSome? Item.emacs?
      loadPath := items.filterMap Item.directory?
      configFile := items.findSome? Item.configFile?
      verbose := decide (Item.verbose ∈ items) }

/-- Whether the items can stand together on one command line: none is empty, and all but
files and directories come at most once. -/
def Compatible (items : List Item) : Prop :=
  (∀ item ∈ items, item.Acceptable) ∧
  (items.filterMap Item.library?).length ≤ 1 ∧
  (items.filterMap Item.emacs?).length ≤ 1 ∧
  (items.filterMap Item.configFile?).length ≤ 1 ∧
  items.count .verbose ≤ 1

/-- The rows of words that spell some files and settings. -/
def Spelling (words : List Bytes) (arguments : Arguments) : Prop :=
  ∃ items, SpellsAll items words ∧ Compatible items ∧ arguments = Arguments.ofItems items

/-- The canonical spelling: long options with their values attached, the end of the
options, and the files. -/
def Arguments.canonicalWords (arguments : Arguments) : List Bytes :=
  let settings := arguments.settings
  let option (setting : Setting) (value : Bytes) := longWord setting.name ++ equals :: value
  (settings.library.map (option .library)).toList
    ++ (settings.emacs.map fun program => option .emacs (Utf8.encode program)).toList
    ++ settings.loadPath.map (option .directory)
    ++ (settings.configFile.map (option .configFile)).toList
    ++ (if settings.verbose then [longWord Switch.verbose.name] else [])
    ++ longWord "" :: arguments.files

end EmacsBatch.CommandLine
