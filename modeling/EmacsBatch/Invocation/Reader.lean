import EmacsBatch.Invocation

/-!
# Reading invocations back

The canonical invocation of a hook is read from left to right. After the batch flag every
word at which the reader stops is one of two options, each of which takes exactly one more
word, so nothing that a directory, a form or a file contains can be taken for an option.
-/

namespace EmacsBatch

/-- All that goes into the canonical invocation of a hook. -/
structure HookCall where
  hook : Hook
  program : Bytes
  library : Bytes
  loadPath : List Bytes
  files : List Bytes
  deriving DecidableEq

namespace HookCall

/-- The canonical invocation. -/
def invocation (call : HookCall) : Invocation :=
  Invocation.forHook call.hook call.program call.library call.loadPath call.files

/-- Read directories as long as the option for one comes next, and leave the rest. -/
def readDirectories : List Bytes → List Bytes × List Bytes
  | flag :: directory :: rest =>
    if flag = Invocation.directoryFlag then
      let read := readDirectories rest
      (directory :: read.1, read.2)
    else ([], flag :: directory :: rest)
  | rest => ([], rest)

/-- The hook whose form is given. -/
def hookOfForm? (form : Bytes) : Option Hook :=
  Hook.all.find? fun hook => Utf8.encode hook.snippet = form

/-- Read a canonical invocation back. -/
def ofInvocation? (invocation : Invocation) : Option HookCall :=
  match invocation.arguments, invocation.assignments with
  | first :: rest, [(name, library)] =>
    if first = Invocation.batchFlag ∧ name = Utf8.encode libraryVariable then
      match readDirectories rest with
      | (loadPath, flag :: form :: files) =>
        if flag = Invocation.evalFlag then
          (hookOfForm? form).map fun hook =>
            ⟨hook, invocation.program, library, loadPath, files⟩
        else none
      | _ => none
    else none
  | _, _ => none

end HookCall

end EmacsBatch
