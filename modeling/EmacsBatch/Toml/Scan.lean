/-!
# Scanners

Configuration files are read by scanners over a row of characters. A scanner either takes
some characters off the front and gives a value, or fails; a failed alternative leaves no
trace. Positions count bytes of the file, so that messages can point into it.
-/

namespace EmacsBatch.Toml

/-- A part of a file, by the positions of its first byte and of the byte after its last. -/
structure Span where
  start : Nat
  stop : Nat
  deriving DecidableEq

/-- What is left of a file, and where it starts. -/
structure Cursor where
  offset : Nat
  rest : List Char

/-- A scanner for a value. -/
abbrev Scan (α : Type) := StateT Cursor Option α

namespace Scan

/-- The number of bytes of a row of characters. -/
def byteCount (cs : List Char) : Nat := cs.foldr (fun c count => c.utf8Size + count) 0

/-- Take one character that satisfies a condition. -/
def satisfy (condition : Char → Bool) : Scan Char := fun cursor =>
  match cursor.rest with
  | c :: rest => if condition c then some (c, ⟨cursor.offset + c.utf8Size, rest⟩) else none
  | [] => none

/-- Take one given character. -/
def char (c : Char) : Scan Unit := do
  let _ ← satisfy (· = c)

/-- Take a given row of characters. -/
def chars : List Char → Scan Unit
  | [] => pure ()
  | c :: rest => do
    char c
    chars rest

/-- Take all characters up to the first that fails a condition. -/
def takeWhile (condition : Char → Bool) : Scan (List Char) := fun cursor =>
  let taken := cursor.rest.takeWhile condition
  some (taken, ⟨cursor.offset + byteCount taken, cursor.rest.dropWhile condition⟩)

/-- Succeed at the end of the file. -/
def atEnd : Scan Unit := fun cursor => if cursor.rest.isEmpty then some ((), cursor) else none

/-- Succeed without taking anything, unless a row of characters comes next. -/
def notBefore (cs : List Char) : Scan Unit := fun cursor =>
  if cs.isPrefixOf cursor.rest then none else some ((), cursor)

/-- Take what a scanner takes, or nothing where it fails. -/
def optional {α : Type} (scan : Scan α) : Scan (Option α) :=
  (do return some (← scan)) <|> pure none

/-- Repeat a scanner as often as it succeeds, at most a given number of times. -/
def upTo {α : Type} (scan : Scan α) : Nat → Scan (List α)
  | 0 => pure []
  | times + 1 =>
    (do
      let first ← scan
      let rest ← upTo scan times
      return first :: rest) <|> pure []

/-- Repeat a scanner that takes at least one character as often as it succeeds. -/
def many {α : Type} (scan : Scan α) : Scan (List α) := do
  upTo scan (← get).rest.length

/-- What a scanner gives, with the part of the file that it took. -/
def spanned {α : Type} (scan : Scan α) : Scan (α × Span) := do
  let start := (← get).offset
  let value ← scan
  return (value, ⟨start, (← get).offset⟩)

end Scan

/-- A tab or a space. -/
def isSpace (c : Char) : Bool := c = ' ' || c = '\t'

/-- Characters that may stand in comments and strings; controls but the tab may not. -/
def isText (c : Char) : Bool := c = '\t' || (c.toNat ≥ 0x20 && c.toNat ≠ 0x7F)

/-- Tabs and spaces, or nothing. -/
def spaces : Scan Unit := do
  let _ ← Scan.takeWhile isSpace

/-- The end of a line. -/
def newline : Scan Unit := Scan.char '\n' <|> Scan.chars ['\r', '\n']

/-- A comment without the end of its line. -/
def comment : Scan Unit := do
  Scan.char '#'
  let _ ← Scan.takeWhile isText

/-- White space, ends of lines and comments, or nothing. -/
def gap : Scan Unit := do
  let _ ← Scan.many ((do let _ ← Scan.satisfy isSpace) <|> newline <|> (do comment; newline))

end EmacsBatch.Toml
