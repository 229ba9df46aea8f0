import EmacsBatch.Text.Quoted

/-!
# Hooks

The four checks that can be run over Emacs Lisp files. Each hook is an Emacs Lisp form for
a batch interpreter: the form loads the helper library that the environment names, then
calls one of the library's functions with the hook's label.
-/

namespace EmacsBatch

/-- A check over Emacs Lisp files. -/
inductive Hook where
  | byteCompile
  | checkByteCompile
  | checkParens
  | indent
  deriving DecidableEq

namespace Hook

/-- The hooks in their listing order. -/
def all : List Hook := [byteCompile, checkByteCompile, checkParens, indent]

/-- The name of the hook's own command. -/
def name : Hook → String
  | byteCompile => "elisp-byte-compile"
  | checkByteCompile => "elisp-check-byte-compile"
  | checkParens => "elisp-check-parens"
  | indent => "elisp-indent"

/-- The hook's name as a subcommand. -/
def subcommand : Hook → String
  | byteCompile => "byte-compile"
  | checkByteCompile => "check-byte-compile"
  | checkParens => "check-parens"
  | indent => "indent"

/-- One line that says what the hook does. -/
def description : Hook → String
  | byteCompile => "Byte-compile Emacs Lisp files, leaving .elc files"
  | checkByteCompile => "Check that Emacs Lisp files byte-compile, leaving no .elc files"
  | checkParens => "Check parentheses in Emacs Lisp files"
  | indent => "Indent Emacs Lisp files in place"

/-- What the helper library writes in front of each of its messages. -/
def label : Hook → String
  | byteCompile => "[ELISP BYTE-COMPILE] "
  | checkByteCompile => "[ELISP CHECK-BYTE-COMPILE] "
  | checkParens => "[ELISP CHECK-PARENS] "
  | indent => "[ELISP INDENT] "

/-- The form that loads the helper library, or fails if the environment names none. -/
def bootstrap : String :=
  "(let ((lib (getenv \"PRE_COMMIT_ELISP_LIB\")))\n"
    ++ "  (if (and lib (file-exists-p lib))\n"
    ++ "      (load-file lib)\n"
    ++ "    (error \"PRE_COMMIT_ELISP_LIB is not set or points to a non-existent file.\")))"

/-- The call of the helper library's function. -/
def call (hook : Hook) : String :=
  let label := Text.quoted hook.label
  match hook with
  | byteCompile => "(pre-commit-elisp-byte-compile " ++ label ++ " nil)"
  | checkByteCompile => "(pre-commit-elisp-byte-compile " ++ label ++ " t)"
  | checkParens => "(pre-commit-elisp-check-parens " ++ label ++ ")"
  | indent => "(pre-commit-elisp-indent " ++ label ++ ")"

/-- The whole form that the interpreter evaluates before it visits the files. -/
def snippet (hook : Hook) : String :=
  "(with-temp-buffer\n" ++ bootstrap ++ "\n" ++ hook.call ++ ")"

/-- Whether compiled files stay behind. -/
def leavesArtifacts : Hook → Bool
  | byteCompile => true
  | _ => false

/-- Whether the files themselves are changed. -/
def rewritesFiles : Hook → Bool
  | indent => true
  | _ => false

/-- Every hook is listed. -/
theorem mem_all (hook : Hook) : hook ∈ all := by cases hook <;> decide

end Hook

end EmacsBatch
