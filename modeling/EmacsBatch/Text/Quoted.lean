import EmacsBatch.Bytes.Utf8
import EmacsBatch.Text.Printable

/-!
# Quoted text

Values that come from outside are shown between double quotes in messages and log lines.
Inside, a backslash marks the quote, the backslash itself, the usual controls, every
character that would not stand for itself, and bytes that are no text at all.
-/

namespace EmacsBatch.Text

/-- The way one character is written between quotes. -/
def quoteChar (c : Char) : List Char :=
  if c = '\x00' then ['\\', '0']
  else if c = '\t' then ['\\', 't']
  else if c = '\r' then ['\\', 'r']
  else if c = '\n' then ['\\', 'n']
  else if c = '"' then ['\\', '"']
  else if c = '\\' then ['\\', '\\']
  else if isPrintable c then [c]
  else ['\\', 'u', '\x7b'] ++ Nat.toDigits 16 c.toNat ++ ['\x7d']

/-- The way a byte that belongs to no character is written: two capital digits. -/
def quoteByte (byte : UInt8) : List Char :=
  ['\\', 'x', (Nat.digitChar (byte.toNat / 16)).toUpper,
    (Nat.digitChar (byte.toNat % 16)).toUpper]

/-- The way one piece of a byte string is written between quotes. -/
def quotePiece : Utf8.Piece → List Char
  | .char c => quoteChar c
  | .malformed bytes => bytes.flatMap quoteByte

/-- A text between quotes. -/
def quoted (s : String) : String :=
  String.ofList ('"' :: s.toList.flatMap quoteChar ++ ['"'])

/-- A byte string between quotes. -/
def quotedBytes (bytes : Bytes) : String :=
  String.ofList ('"' :: (Utf8.pieces bytes).flatMap quotePiece ++ ['"'])

end EmacsBatch.Text
