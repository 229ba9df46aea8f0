import EmacsBatch.Bytes.Utf8
import EmacsBatch.SystemError

/-!
# Failures

The ways in which running a hook can end without success, each with the message that is
shown and the exit status that follows from it.
-/

namespace EmacsBatch

/-- Why a hook did not succeed. -/
inductive Failure where
  /-- The working directory or a configuration file could not be read. -/
  | io (cause : SystemError)
  /-- None of the paths searched is a helper library. -/
  | libraryNotFound (searched : List Bytes)
  /-- The configuration is malformed or makes no sense. -/
  | invalidConfig (message : String)
  /-- The interpreter was not found. -/
  | interpreterNotFound (program : String)
  /-- The interpreter was found and could not be started. -/
  | launch (program : String) (cause : SystemError)
  /-- The interpreter ended with a status other than zero. -/
  | exited (program : String) (code : Int)
  /-- A signal ended the interpreter. -/
  | terminated (program : String) (signal : Int)
  deriving DecidableEq

namespace Failure

/-- The message that is shown for a failure. -/
def message : Failure → String
  | .io cause => "IO error: " ++ cause.message
  | .libraryNotFound searched =>
    "PRE_COMMIT_ELISP_LIB is not set or points to a non-existent file (searched: "
      ++ ", ".intercalate (searched.map Utf8.lossy) ++ ")"
  | .invalidConfig message => "Invalid configuration: " ++ message
  | .interpreterNotFound program => "Interpreter '" ++ program ++ "' not found on PATH"
  | .launch program cause => "Failed to launch '" ++ program ++ "': " ++ cause.message
  | .exited program code =>
    "Command '" ++ program ++ "' returned non-zero exit status " ++ toString code
  | .terminated program signal =>
    "Command '" ++ program ++ "' died with signal " ++ toString signal

/-- The exit status of a command that ends with a failure: that of the interpreter if it
ran, 127 if it was not found, and 1 otherwise. -/
def exitCode : Failure → Int
  | .interpreterNotFound _ => 127
  | .exited _ code => code
  | .terminated _ signal => 128 + signal
  | .io _ | .libraryNotFound _ | .invalidConfig _ | .launch _ _ => 1

/-- Whether a failure comes from the configuration, before any interpreter is looked for. -/
def isConfiguration : Failure → Bool
  | .io _ | .libraryNotFound _ | .invalidConfig _ => true
  | _ => false

/-- The system error behind a failure. -/
def source? : Failure → Option SystemError
  | .io cause => some cause
  | .launch _ cause => some cause
  | _ => none

end Failure

end EmacsBatch
