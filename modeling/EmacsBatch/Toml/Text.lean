import EmacsBatch.Text.Hexadecimal
import EmacsBatch.Toml.Scan

/-!
# Strings in configuration files

Basic strings stand between double quotes and know escapes; literal strings stand between
single quotes and know none. Either kind may run over several lines between triple quotes,
where a line end directly after the opening quotes does not count and line ends are read as
line feeds.
-/

namespace EmacsBatch.Toml

/-- A number of exactly so many digits in base sixteen, after those already read. -/
def hexNumber (n : Nat) : Nat → Scan Nat
  | 0 => pure n
  | digits + 1 => do
    let c ← Scan.satisfy fun c => (Text.hexValue? c).isSome
    hexNumber (n * 16 + (Text.hexValue? c).getD 0) digits

/-- The character with a code point of so many digits in base sixteen. -/
def codePoint (digits : Nat) : Scan Char := do
  let n ← hexNumber 0 digits
  if n.isValidChar then return Char.ofNat n else failure

/-- An escaped character. -/
def escape : Scan Char := do
  Scan.char '\\'
  match ← Scan.satisfy fun _ => true with
  | 'b' => return '\x08'
  | 't' => return '\t'
  | 'n' => return '\n'
  | 'f' => return '\x0c'
  | 'r' => return '\r'
  | '"' => return '"'
  | '\\' => return '\\'
  | 'u' => codePoint 4
  | 'U' => codePoint 8
  | _ => failure

/-- A character that stands for itself in a basic string. -/
def basicChar : Scan Char := Scan.satisfy fun c => isText c && c ≠ '"' && c ≠ '\\'

/-- A basic string on one line. -/
def basicString : Scan String := do
  Scan.char '"'
  let cs ← Scan.many (basicChar <|> escape)
  Scan.char '"'
  return String.ofList cs

/-- A character that stands for itself in a literal string. -/
def literalChar : Scan Char := Scan.satisfy fun c => isText c && c ≠ '\''

/-- A literal string on one line. -/
def literalString : Scan String := do
  Scan.char '\''
  let cs ← Scan.many literalChar
  Scan.char '\''
  return String.ofList cs

/-- A line end as it is read inside a string. -/
def lineEnd : Scan Char := do
  newline
  return '\n'

/-- A backslash at the end of a line, with all white space up to the next character. -/
def continuation : Scan Unit := do
  Scan.char '\\'
  spaces
  newline
  let _ ← Scan.many ((do let _ ← Scan.satisfy isSpace) <|> newline)

/-- A quote that does not begin three quotes. -/
def looseQuote (quote : Char) : Scan Char := do
  Scan.notBefore [quote, quote, quote]
  Scan.char quote
  return quote

/-- A string over several lines, from its opening to its closing quotes; up to two further
quotes before the closing ones belong to the string. -/
def multiline (quote : Char) (part : Scan (List Char)) : Scan String := do
  Scan.chars [quote, quote, quote]
  let _ ← Scan.optional newline
  let parts ← Scan.many part
  Scan.chars [quote, quote, quote]
  let final ← Scan.upTo (Scan.char quote) 2
  return String.ofList (parts.flatten ++ List.replicate final.length quote)

/-- A part of the text that stands for one character. -/
def single (scan : Scan Char) : Scan (List Char) := do return [← scan]

/-- A basic string over several lines. -/
def multilineBasic : Scan String :=
  multiline '"' <|
    single basicChar <|> single lineEnd <|> (do continuation; return []) <|> single escape
      <|> single (looseQuote '"')

/-- A literal string over several lines. -/
def multilineLiteral : Scan String :=
  multiline '\'' (single literalChar <|> single lineEnd <|> single (looseQuote '\''))

end EmacsBatch.Toml
