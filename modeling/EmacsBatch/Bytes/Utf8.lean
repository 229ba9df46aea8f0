import EmacsBatch.Bytes

/-!
# UTF-8

A byte string is read as a row of pieces, each a well-formed character or a maximal run of
bytes that begins a character and is not continued. Decoding, replacement of what is
malformed, and quoting of raw bytes are all read off this one row.

Characters are written by arithmetic on their code points, so their bytes can be compared
as numbers.
-/

namespace EmacsBatch.Utf8

/-- The bytes of one character: one byte below 0x80, otherwise a leading byte and one to
three continuation bytes of six bits each. -/
def encodeChar (c : Char) : Bytes :=
  let n := c.toNat
  if n < 0x80 then [n.toUInt8]
  else if n < 0x800 then [(0xC0 + n / 0x40).toUInt8, (0x80 + n % 0x40).toUInt8]
  else if n < 0x10000 then
    [(0xE0 + n / 0x1000).toUInt8, (0x80 + n / 0x40 % 0x40).toUInt8, (0x80 + n % 0x40).toUInt8]
  else
    [(0xF0 + n / 0x40000).toUInt8, (0x80 + n / 0x1000 % 0x40).toUInt8,
      (0x80 + n / 0x40 % 0x40).toUInt8, (0x80 + n % 0x40).toUInt8]

/-- The bytes of a row of characters. -/
def encodeChars (cs : List Char) : Bytes := cs.flatMap encodeChar

/-- The bytes of a text. -/
def encode (s : String) : Bytes := encodeChars s.toList

/-- A part of a byte string: one character, or bytes that form none. -/
inductive Piece where
  | char (c : Char)
  | malformed (bytes : Bytes)
  deriving DecidableEq

/-- What a leading byte announces: how many bytes follow, and the least and greatest value
of the first of them. -/
structure Lead where
  following : Nat
  low : Nat
  high : Nat
  deriving DecidableEq

/-- The announcement of a leading byte above 0x7F, if it is one.

The limits on the second byte exclude overlong forms, surrogates and code points above
0x10FFFF. -/
def lead? (byte : UInt8) : Option Lead :=
  let n := byte.toNat
  if n < 0xC2 then none
  else if n < 0xE0 then some ⟨1, 0x80, 0xBF⟩
  else if n = 0xE0 then some ⟨2, 0xA0, 0xBF⟩
  else if n = 0xED then some ⟨2, 0x80, 0x9F⟩
  else if n < 0xF0 then some ⟨2, 0x80, 0xBF⟩
  else if n = 0xF0 then some ⟨3, 0x90, 0xBF⟩
  else if n < 0xF4 then some ⟨3, 0x80, 0xBF⟩
  else if n = 0xF4 then some ⟨3, 0x80, 0x8F⟩
  else none

/-- Whether a byte continues a character. -/
def isTail (byte : UInt8) : Bool := 0x80 ≤ byte.toNat && byte.toNat ≤ 0xBF

/-- The character whose leading byte and continuation bytes are given. -/
def assemble (first : Nat) (tails : Bytes) : Char :=
  Char.ofNat (tails.foldl (fun n byte => n * 0x40 + byte.toNat % 0x40) first)

/-- The row of pieces of a byte string.

A malformed piece ends before the first byte that cannot continue it, and reading goes on
at that byte. -/
def pieces : Bytes → List Piece
  | [] => []
  | a :: rest =>
    if a.toNat < 0x80 then .char (Char.ofNat a.toNat) :: pieces rest
    else match lead? a with
      | none => .malformed [a] :: pieces rest
      | some lead =>
        match rest with
        | [] => [.malformed [a]]
        | b :: rest₁ =>
          if lead.low ≤ b.toNat ∧ b.toNat ≤ lead.high then
            if lead.following = 1 then .char (assemble (a.toNat % 0x20) [b]) :: pieces rest₁
            else match rest₁ with
              | [] => [.malformed [a, b]]
              | c :: rest₂ =>
                if isTail c then
                  if lead.following = 2 then
                    .char (assemble (a.toNat % 0x10) [b, c]) :: pieces rest₂
                  else match rest₂ with
                    | [] => [.malformed [a, b, c]]
                    | d :: rest₃ =>
                      if isTail d then
                        .char (assemble (a.toNat % 0x08) [b, c, d]) :: pieces rest₃
                      else .malformed [a, b, c] :: pieces (d :: rest₃)
                else .malformed [a, b] :: pieces (c :: rest₂)
          else .malformed [a] :: pieces (b :: rest₁)

/-- The bytes a piece was read from. -/
def Piece.bytes : Piece → Bytes
  | .char c => encodeChar c
  | .malformed bytes => bytes

/-- The character of a piece, if it is one. -/
def Piece.char? : Piece → Option Char
  | .char c => some c
  | .malformed _ => none

/-- The character shown for a piece: U+FFFD stands for malformed bytes. -/
def Piece.shown : Piece → Char
  | .char c => c
  | .malformed _ => Char.ofNat 0xFFFD

/-- The characters of a byte string, if all of it is well formed. -/
def decodeChars? (bytes : Bytes) : Option (List Char) := (pieces bytes).mapM Piece.char?

/-- The text of a byte string, if all of it is well formed. -/
def decode? (bytes : Bytes) : Option String := (decodeChars? bytes).map String.ofList

/-- Whether a byte string is well-formed UTF-8. -/
def isValid (bytes : Bytes) : Bool := (decode? bytes).isSome

/-- The text of a byte string, with one U+FFFD for every malformed piece. -/
def lossy (bytes : Bytes) : String := String.ofList ((pieces bytes).map Piece.shown)

end EmacsBatch.Utf8
