import EmacsBatch.Text.Blank
import EmacsBatch.Text.Hexadecimal
import EmacsBatch.Text.Pattern

/-!
# Notation of patterns

What the notation of patterns has in common inside and outside brackets: the flags, which
say how it is to be understood, the white space that one of them allows, and what stands
for one character, for a set of characters or for a point of the text.

Properties of characters beyond ASCII are not known. So what needs them cannot be read:
classes of characters and words unless Unicode is turned off, and characters without regard
to case unless it is.
-/

namespace EmacsBatch.Text

/-- What can be said about the notation. -/
inductive Flag where
  /-- The case of letters does not matter. -/
  | caseless
  /-- Lines of the text have a start and an end. -/
  | lines
  /-- A dot stands for the end of a line too. -/
  | dotAll
  /-- Repetition is greedy where it would not be, and not where it would. -/
  | lazy
  /-- All characters count, and not only those of ASCII. -/
  | unicode
  /-- A carriage return ends a line too. -/
  | returns
  /-- White space and comments can be inserted. -/
  | spaced
  deriving DecidableEq

/-- The flag of a letter. -/
def Flag.ofLetter? : Char → Option Flag
  | 'i' => some .caseless
  | 'm' => some .lines
  | 's' => some .dotAll
  | 'U' => some .lazy
  | 'u' => some .unicode
  | 'R' => some .returns
  | 'x' => some .spaced
  | _ => none

/-- The flags that are set. -/
abbrev Flags := List Flag

namespace Flags

/-- The flags at the start of a pattern. -/
def initial : Flags := [.unicode]

/-- The flags after one of them was set or unset. -/
def turn (flags : Flags) (flag : Flag) (on : Bool) : Flags :=
  if on then flag :: flags else flags.filter (· ≠ flag)

/-- The flags after some letters were read. A hyphen unsets those after it; it is not the
last letter, and no letter stands there twice. -/
def read? (flags : Flags) (letters : List Char) : Option Flags :=
  if letters.eraseDups ≠ letters ∨ letters.getLast? = some '-' then none
  else
    let on := letters.takeWhile (· ≠ '-')
    let off := (letters.dropWhile (· ≠ '-')).drop 1
    let change (on : Bool) (flags : Flags) (letter : Char) : Option Flags :=
      (Flag.ofLetter? letter).map (flags.turn · on)
    on.foldlM (change true) flags >>= off.foldlM (change false)

/-- The characters after white space and comments, each of which goes to the end of its
line; or else after the rest of a comment. -/
def skipSpace (inComment : Bool) : List Char → List Char
  | [] => []
  | c :: rest =>
    if inComment then skipSpace (c ≠ '\n') rest
    else if c = '#' then skipSpace true rest
    else if whiteSpace.contains c then skipSpace false rest
    else c :: rest

/-- The characters from the next one on that counts. -/
def skip (flags : Flags) (cs : List Char) : List Char :=
  if flags.contains .spaced then skipSpace false cs else cs

/-- A look ahead at the next character that counts, which passes over the sign of one
comment but not over its text. -/
def peek (flags : Flags) (cs : List Char) : Option Char :=
  if flags.contains .spaced then
    match cs.dropWhile whiteSpace.contains with
    | '#' :: rest => (rest.dropWhile whiteSpace.contains).head?
    | rest => rest.head?
  else cs.head?

/-- Whether letters are read without regard to case in a way that needs their properties. -/
def needsCases (flags : Flags) : Bool := flags.contains .unicode && flags.contains .caseless

/-- The point at which a line starts. -/
def lineStart (flags : Flags) : Point :=
  if !flags.contains .lines then .textStart
  else if flags.contains .returns then .returnStart
  else .lineStart

/-- The point at which a line ends. -/
def lineEnd (flags : Flags) : Point :=
  if !flags.contains .lines then .textEnd
  else if flags.contains .returns then .returnEnd
  else .lineEnd

/-- The set that a dot stands for; without Unicode it would match parts of characters. -/
def dot? (flags : Flags) : Option CharSet :=
  if !flags.contains .unicode then none
  else if flags.contains .dotAll then some .all
  else if flags.contains .returns then
    some (CharSet.ofRanges [('\n', '\n'), ('\r', '\r')]).complement
  else some (CharSet.single '\n').complement

/-- A set with the letters of ASCII in either case, if case does not matter. -/
def closeCase (flags : Flags) (set : CharSet) : CharSet :=
  if flags.contains .caseless then
    "abcdefghijklmnopqrstuvwxyz".toList.foldl
      (fun set c =>
        if set.contains c || set.contains c.toUpper then
          set.union ((CharSet.single c).union (CharSet.single c.toUpper))
        else set)
      set
  else set

end Flags

/-- What a character, or a backslash and what follows it, stands for. -/
inductive Symbol where
  /-- A character, which may be given as the number of a byte. -/
  | char (c : Char) (isByte : Bool)
  /-- A set of characters of ASCII, or all others. -/
  | ascii (set : CharSet) (negated : Bool)
  | point (point : Point)

namespace Symbol

/-- The digits of ASCII. -/
def digits : CharSet := .range '0' '9'

/-- The white space of ASCII. -/
def space : CharSet := .ofRanges [('\t', '\r'), (' ', ' ')]

/-- The characters of ASCII that words are made of. -/
def wordChars : CharSet := .ofRanges [('0', '9'), ('A', 'Z'), ('_', '_'), ('a', 'z')]

/-- The symbol of a letter or sign after a backslash, code points aside. Other punctuation
stands for itself. -/
def ofEscaped? : Char → Option Symbol
  | 'd' => some (.ascii digits false)
  | 'D' => some (.ascii digits true)
  | 's' => some (.ascii space false)
  | 'S' => some (.ascii space true)
  | 'w' => some (.ascii wordChars false)
  | 'W' => some (.ascii wordChars true)
  | 'A' => some (.point .textStart)
  | 'z' => some (.point .textEnd)
  | 'b' => some (.point .wordEdge)
  | 'B' => some (.point .notWordEdge)
  | '<' => some (.point .wordStart)
  | '>' => some (.point .wordEnd)
  | 'a' => some (.char '\x07' false)
  | 'f' => some (.char '\x0c' false)
  | 't' => some (.char '\t' false)
  | 'n' => some (.char '\n' false)
  | 'r' => some (.char '\r' false)
  | 'v' => some (.char '\x0b' false)
  | c => if c.toNat < 0x80 ∧ !c.isAlphanum then some (.char c false) else none

/-- The number of hexadecimal digits after a letter that announces a code point. -/
def codeLength? : Char → Option Nat
  | 'x' => some 2
  | 'u' => some 4
  | 'U' => some 8
  | _ => none

/-- The character of a code point in base sixteen. -/
def codeChar? (digits : List Char) : Option Char := do
  let n ← hexNumber? digits
  if n.isValidChar then some (Char.ofNat n) else none

/-- A number of characters, each of which may have white space before it. -/
def readSpaced (flags : Flags) : Nat → List Char → Option (List Char × List Char)
  | 0, cs => some ([], cs)
  | n + 1, cs =>
    match flags.skip cs with
    | [] => none
    | c :: rest => (readSpaced flags n rest).map fun (read, rest) => (c :: read, rest)

/-- A symbol after its backslash. -/
def readEscaped (flags : Flags) : List Char → Option (Symbol × List Char)
  | [] => none
  | c :: rest =>
    match codeLength? c with
    | some length => do
      let (digits, rest) ← readSpaced flags length rest
      return (.char (← codeChar? digits) (c = 'x'), rest)
    | none => (ofEscaped? c).map (·, rest)

/-- The set of one character or of a class, as far as it can be told without tables. Without
Unicode a set is one of bytes, and no byte beyond ASCII is a character. -/
def set? (flags : Flags) : Symbol → Option CharSet
  | .char c isByte =>
    if flags.needsCases || (!flags.contains .unicode && isByte && 0x80 ≤ c.toNat) then none
    else some (flags.closeCase (.single c))
  | .ascii set negated => if flags.contains .unicode || negated then none else some set
  | .point _ => none

/-- The pattern of a symbol. Where words start and end is not known in Unicode. -/
def pattern? (flags : Flags) : Symbol → Option Pattern
  | .point spot =>
    if flags.contains .unicode && spot.isOfWords then none
    else some (.point spot)
  | symbol => (symbol.set? flags).map .one

/-- The members that a symbol adds to a set in brackets, where without Unicode no character
beyond ASCII can stand. -/
def members? (flags : Flags) : Symbol → Option CharSet
  | .char c isByte =>
    if !flags.contains .unicode && 0x80 ≤ c.toNat then none
    else set? flags (.char c isByte)
  | symbol => symbol.set? flags

end Symbol

end EmacsBatch.Text
