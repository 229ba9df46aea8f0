import EmacsBatch.CommandLine.Umbrella

/-!
# Help pages

The texts that `--help` and `--version` print. A page names what is run, how it is called,
and each of its parameters with a short explanation; the explanations of a page start in
one column.
-/

namespace EmacsBatch.CommandLine

/-- The name of the umbrella command. -/
def umbrellaName : String := "pre-commit-elisp"

/-- The version of all commands. -/
def versionNumber : String := "0.1.0"

/-- One line about the umbrella command. -/
def umbrellaSummary : String := "Pre-commit hooks for Emacs Lisp"

/-- What the long page of the umbrella command begins with. -/
def umbrellaDescription : String :=
  "Runs Emacs in batch mode to byte-compile, check, and indent Emacs Lisp files. "
    ++ "Each subcommand exits 0 when every file passes."

/-- One line about the hooks as a whole. -/
def hooksSummary : String := "Supported hook actions"

/-- One line about the doctor. -/
def doctorSummary : String := "Report the interpreter and helper library the hooks would use"

/-- One line about the `help` subcommand. -/
def helpSummary : String := "Print this message or the help of the given subcommand(s)"

/-- The explanation of a setting. -/
def Setting.explanation : Setting → String
  | .library => "Helper library path (overrides PRE_COMMIT_ELISP_LIB)"
  | .emacs => "Emacs executable (overrides PRE_COMMIT_ELISP_EMACS)"
  | .directory => "Directory to add to the Emacs load path (repeatable)"
  | .configFile => "Configuration file (default: .pre-commit-elisp.toml in the working directory)"

/-- The explanation of a flag. -/
def Switch.explanation : Switch → String
  | .verbose => "Enable debug logging"
  | .json => "Print the report as JSON"
  | .help => "Print help"
  | .version => "Print version"

/-- A parameter as a help page shows it, with its letter in front if it has one. -/
def listed (letter : String) (parameter : Parameter) : String :=
  (if letter = "" then "    " else "-" ++ letter ++ ", ") ++ parameter.shown

/-- The options of a command, each as it is shown and with its explanation. -/
def Shape.optionRows (shape : Shape) : List (String × String) :=
  let setting (letter : String) (s : Setting) := (listed letter (.valued s), s.explanation)
  let switch (letter : String) (s : Switch) := (listed letter (.flag s), s.explanation)
  (if shape.hasJson then [switch "" .json] else [])
    ++ [setting "" .library, setting "" .emacs, setting "L" .directory, setting "" .configFile,
      switch "v" .verbose, switch "h" .help]
    ++ (if shape.hasVersion then [switch "V" .version] else [])

/-- A text with spaces after it up to a width. -/
def padded (width : Nat) (text : String) : String :=
  text ++ String.ofList (List.replicate (width - text.length) ' ')

/-- Rows in two columns, indented by two spaces and with two spaces between the columns. -/
def table (rows : List (String × String)) : String :=
  let width := rows.foldl (fun width row => max width row.1.length) 0
  String.join (rows.map fun row => "  " ++ padded width row.1 ++ "  " ++ row.2 ++ "\n")

/-- The page of a command of some shape. -/
def commandPage (summary usage : String) (shape : Shape) : String :=
  summary ++ "\n\nUsage: " ++ usage ++ " [OPTIONS]" ++ (if shape.takesFiles then " [FILES]..." else "")
    ++ "\n\n"
    ++ (if shape.takesFiles then
        "Arguments:\n" ++ table [(Parameter.files.shown, "Emacs Lisp files to process")] ++ "\n"
      else "")
    ++ "Options:\n" ++ table shape.optionRows

/-- One line about a subcommand. -/
def Subcommand.summary : Subcommand → String
  | .hook target => target.description
  | .doctor => doctorSummary
  | .help => helpSummary

/-- The list of the umbrella's subcommands. -/
def subcommandTable : String :=
  "Commands:\n"
    ++ table (Umbrella.full.subcommands.map fun subcommand => (subcommand.name, subcommand.summary))

/-- Calls that the umbrella's pages show as examples. -/
def examples : String :=
  "Examples:\n"
    ++ "  pre-commit-elisp check-parens init.el\n"
    ++ "  pre-commit-elisp check-byte-compile -L lisp lisp/*.el\n"
    ++ "  pre-commit-elisp indent --emacs emacs-30 init.el\n"
    ++ "  pre-commit-elisp doctor --json\n"

/-- The umbrella's page around the list of its flags. -/
def umbrellaPage (opening flags : String) : String :=
  opening ++ "\n\nUsage: " ++ umbrellaName ++ " <COMMAND>\n\n" ++ subcommandTable
    ++ "\nOptions:\n" ++ flags ++ "\n" ++ examples

/-- The text of a help page. -/
def Page.text : Page → String
  | .hookCommand hook => commandPage hook.description hook.name .hookCommand
  | .hookSubcommand hook =>
    commandPage hook.description (umbrellaName ++ " " ++ hook.subcommand) .hookSubcommand
  | .doctor => commandPage doctorSummary (umbrellaName ++ " doctor") .doctor
  | .help =>
    helpSummary ++ "\n\nUsage: " ++ umbrellaName ++ " help [COMMAND]...\n\nArguments:\n"
      ++ table [("[COMMAND]...", "Print help for the subcommand(s)")]
  | .short =>
    umbrellaPage umbrellaSummary
      (table [("-h, --help", "Print help (see more with '--help')"), ("-V, --version", "Print version")])
  | .long =>
    umbrellaPage umbrellaDescription
      ("  -h, --help\n          Print help (see a summary with '-h')\n\n"
        ++ "  -V, --version\n          Print version\n")

/-- The line that names a command and its version. -/
def versionLine (command : String) : String := command ++ " " ++ versionNumber ++ "\n"

end EmacsBatch.CommandLine
