import EmacsBatch.Bytes.Utf8
import EmacsBatch.Text.Plain

/-!
# Wrong command lines

The ways in which a command line can be wrong, with the line that tells the user. A word of
the command line is shown as plain text.
-/

namespace EmacsBatch.CommandLine

/-- An option that takes a value. -/
inductive Setting where
  | library
  | emacs
  | directory
  | configFile
  deriving DecidableEq

/-- A flag that takes no value. -/
inductive Switch where
  | verbose
  | json
  | help
  | version
  deriving DecidableEq

/-- Whatever a command line can give. -/
inductive Parameter where
  | valued (setting : Setting)
  | flag (switch : Switch)
  | files
  deriving DecidableEq

/-- The name of a setting after two hyphens. -/
def Setting.name : Setting → String
  | .library => "lib"
  | .emacs => "emacs"
  | .directory => "load-path"
  | .configFile => "config"

/-- What the value of a setting stands for. -/
def Setting.placeholder : Setting → String
  | .library => "PATH"
  | .emacs => "PROGRAM"
  | .directory => "DIR"
  | .configFile => "PATH"

/-- The name of a flag after two hyphens. -/
def Switch.name : Switch → String
  | .verbose => "verbose"
  | .json => "json"
  | .help => "help"
  | .version => "version"

/-- The way a parameter is shown in messages. -/
def Parameter.shown : Parameter → String
  | .valued setting => "--" ++ setting.name ++ " <" ++ setting.placeholder ++ ">"
  | .flag switch => "--" ++ switch.name
  | .files => "[FILES]..."

/-- What is wrong with a command line. -/
inductive UsageError where
  /-- No such option or flag, or a word where none is taken. -/
  | unknownArgument (shown : String)
  /-- A value is missing or empty. -/
  | missingValue (parameter : Parameter)
  /-- Something is given twice that may be given once. -/
  | repeated (parameter : Parameter)
  /-- A flag is given a value. -/
  | unexpectedValue (value : String) (parameter : Parameter)
  /-- A value that must be text is not. -/
  | notText
  /-- No such subcommand. -/
  | unknownSubcommand (word : String)
  deriving DecidableEq

/-- The message for a wrong command line. -/
def UsageError.message : UsageError → String
  | .unknownArgument shown => "error: unexpected argument '" ++ Text.plain shown ++ "' found"
  | .missingValue parameter =>
    "error: a value is required for '" ++ parameter.shown ++ "' but none was supplied"
  | .repeated parameter =>
    "error: the argument '" ++ parameter.shown ++ "' cannot be used multiple times"
  | .unexpectedValue value parameter =>
    "error: unexpected value '" ++ Text.plain value ++ "' for '" ++ parameter.shown
      ++ "' found; no more were expected"
  | .notText => "error: invalid UTF-8 was detected in one or more arguments"
  | .unknownSubcommand word => "error: unrecognized subcommand '" ++ Text.plain word ++ "'"

/-- The first line of the message. -/
def UsageError.line (error : UsageError) : String := Text.firstLine error.message

end EmacsBatch.CommandLine
