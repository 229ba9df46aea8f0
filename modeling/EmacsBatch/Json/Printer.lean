import EmacsBatch.Json.Basic
import EmacsBatch.Decimal.Shortest

/-!
# JSON texts

A value is written either on one line without spaces, or spread over lines with two spaces
per level, where empty arrays and objects stay on one line. Characters beyond ASCII are
written as themselves.
-/

namespace EmacsBatch.Json

/-- Numerals with a fraction or an exponent are positional as long as at most sixteen digits
stand before the point and at most four zeros right after it; a tie goes to the even
digit. -/
def numerals : Decimal.NumeralStyle := ⟨.even, some (-4, 16)⟩

/-- The way one character is written in a string. -/
def escapeChar (c : Char) : List Char :=
  if c = '"' then ['\\', '"']
  else if c = '\\' then ['\\', '\\']
  else if c = '\x08' then ['\\', 'b']
  else if c = '\x0c' then ['\\', 'f']
  else if c = '\n' then ['\\', 'n']
  else if c = '\r' then ['\\', 'r']
  else if c = '\t' then ['\\', 't']
  else if c.toNat < 0x20 then
    ['\\', 'u', '0', '0', Nat.digitChar (c.toNat / 16), Nat.digitChar (c.toNat % 16)]
  else [c]

/-- A string with its quotes. -/
def stringText (s : String) : List Char := '"' :: s.toList.flatMap escapeChar ++ ['"']

/-- A value that has no parts; there is no numeral for what is not a finite number. -/
def scalarText : Json → List Char
  | .boolean value => (if value then "true" else "false").toList
  | .integer value => (toString value).toList
  | .float (.finite negative significand exponent) =>
    ((Decimal.Binary64.finite negative significand exponent).text numerals).toList
  | .string value => stringText value
  | _ => "null".toList

/-- What separates the parts of an array or object: either nothing, or a new line with two
spaces for each level. -/
def lineBreak (pretty : Bool) (level : Nat) : List Char :=
  if pretty then '\n' :: List.replicate (2 * level) ' ' else []

mutual

/-- The characters of a value that stands at a level of nesting. -/
def chars (pretty : Bool) (level : Nat) : Json → List Char
  | .array [] => ['[', ']']
  | .array (element :: rest) =>
    '[' :: lineBreak pretty (level + 1) ++ chars pretty (level + 1) element
      ++ elementChars pretty (level + 1) rest ++ lineBreak pretty level ++ [']']
  | .object [] => ['\x7b', '\x7d']
  | .object ((name, value) :: rest) =>
    '\x7b' :: lineBreak pretty (level + 1) ++ stringText name
      ++ (if pretty then [':', ' '] else [':']) ++ chars pretty (level + 1) value
      ++ memberChars pretty (level + 1) rest ++ lineBreak pretty level ++ ['\x7d']
  | value => scalarText value

/-- The characters of the elements after the first. -/
def elementChars (pretty : Bool) (level : Nat) : List Json → List Char
  | [] => []
  | element :: rest =>
    ',' :: lineBreak pretty level ++ chars pretty level element ++ elementChars pretty level rest

/-- The characters of the members after the first. -/
def memberChars (pretty : Bool) (level : Nat) : List (String × Json) → List Char
  | [] => []
  | (name, value) :: rest =>
    ',' :: lineBreak pretty level ++ stringText name
      ++ (if pretty then [':', ' '] else [':']) ++ chars pretty level value
      ++ memberChars pretty level rest

end

/-- The text of a value on one line. -/
def compact (value : Json) : String := String.ofList (chars false 0 value)

/-- The text of a value over several lines. -/
def pretty (value : Json) : String := String.ofList (chars true 0 value)

end EmacsBatch.Json
