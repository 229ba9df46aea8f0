import EmacsBatch.Json.Basic
import EmacsBatch.Text.Hexadecimal

/-!
# Reading JSON

A reader for RFC 8259 texts. A numeral without fraction and exponent is a whole number if
64 bits hold it, with or without a sign, and a floating-point number otherwise; a numeral
too large for any finite number is refused. As many digits as 64 bits hold are taken for
the significand of a floating-point number, and the rest are passed over.

Every reader takes the characters that are left and returns those that it leaves.
-/

namespace EmacsBatch.Json

/-- A reader of a value from the front of a row of characters. -/
abbrev Reader (α : Type) := List Char → Option (α × List Char)

/-- The characters after leading white space. -/
def skipBlank (cs : List Char) : List Char :=
  cs.dropWhile fun c => c = ' ' ∨ c = '\n' ∨ c = '\r' ∨ c = '\t'

/-- The characters after an expected word. -/
def expect (word : List Char) (cs : List Char) : Option (List Char) :=
  if word.isPrefixOf cs then some (cs.drop word.length) else none

/-- The character that a backslash and a letter stand for. -/
def simpleEscape? (c : Char) : Option Char :=
  match c with
  | '"' => some '"'
  | '\\' => some '\\'
  | '/' => some '/'
  | 'b' => some '\x08'
  | 'f' => some '\x0c'
  | 'n' => some '\n'
  | 'r' => some '\r'
  | 't' => some '\t'
  | _ => none

/-- The code points of a string up to its closing quote, halves of surrogate pairs
included. -/
def readCodePoints : Reader (List Nat)
  | [] => none
  | '"' :: rest => some ([], rest)
  | '\\' :: 'u' :: a :: b :: c :: d :: rest => do
    let n ← Text.hexNumber? [a, b, c, d]
    let (ns, rest) ← readCodePoints rest
    return (n :: ns, rest)
  | '\\' :: c :: rest => do
    let e ← simpleEscape? c
    let (ns, rest) ← readCodePoints rest
    return (e.toNat :: ns, rest)
  | c :: rest =>
    if c.toNat < 0x20 then none else do
      let (ns, rest) ← readCodePoints rest
      return (c.toNat :: ns, rest)

/-- The characters of a row of code points in which surrogates stand in pairs. -/
def joinSurrogates : List Nat → Option (List Char)
  | [] => some []
  | n :: rest =>
    if 0xD800 ≤ n ∧ n ≤ 0xDBFF then
      match rest with
      | m :: rest =>
        if 0xDC00 ≤ m ∧ m ≤ 0xDFFF then
          (joinSurrogates rest).map
            (Char.ofNat (0x10000 + (n - 0xD800) * 0x400 + (m - 0xDC00)) :: ·)
        else none
      | [] => none
    else if 0xDC00 ≤ n ∧ n ≤ 0xDFFF then none
    else (joinSurrogates rest).map (Char.ofNat n :: ·)

/-- A string after its opening quote. -/
def readString : Reader String := fun cs => do
  let (ns, rest) ← readCodePoints cs
  let text ← joinSurrogates ns
  return (String.ofList text, rest)

/-- The number that a row of decimal digits stands for. -/
def digitsValue (digits : List Char) : Nat :=
  digits.foldl (fun n c => n * 10 + (c.toNat - '0'.toNat)) 0

/-- One digit or more. -/
def readDigits : Reader (List Char) := fun cs =>
  let digits := cs.takeWhile Char.isDigit
  if digits.isEmpty then none else some (digits, cs.dropWhile Char.isDigit)

/-- The digits of an optional fraction. -/
def readFraction : Reader (Option (List Char))
  | '.' :: rest => do
    let (digits, rest) ← readDigits rest
    return (some digits, rest)
  | cs => some (none, cs)

/-- An optional exponent. -/
def readExponent : Reader (Option Int)
  | [] => some (none, [])
  | e :: rest =>
    if e = 'e' ∨ e = 'E' then
      match rest with
      | '-' :: rest => do
        let (digits, rest) ← readDigits rest
        return (some (-(digitsValue digits : Int)), rest)
      | '+' :: rest => do
        let (digits, rest) ← readDigits rest
        return (some (digitsValue digits), rest)
      | rest => do
        let (digits, rest) ← readDigits rest
        return (some (digitsValue digits), rest)
    else some (none, e :: rest)

/-- A floating-point value, unless it is beyond all finite numbers. -/
def finite? (x : Decimal.Binary64) : Option Json :=
  match x with
  | .finite .. => some (.float x)
  | _ => none

/-- The significand that the first digits of a row append to one of 64 bits, and the number
of digits from the first one on that does not fit any more. -/
def takeDigits (significand : Nat) : List Char → Nat × Nat
  | [] => (significand, 0)
  | digit :: rest =>
    let next := significand * 10 + (digit.toNat - '0'.toNat)
    if next < 2 ^ 64 then takeDigits next rest else (significand, rest.length + 1)

/-- A significand of 64 bits times a power of ten, if it is not too large.

The significand, the power of ten and their product or quotient are each rounded, so that
the result is not always the number nearest to the numeral. A power below -308 is applied
in two steps; two whole steps would leave nothing of the significand. -/
def scaled? (significand : Nat) (power : Int) : Option Decimal.Binary64 :=
  let start := Decimal.Binary64.nearest (significand, 1)
  if significand = 0 ∨ power < -616 then some (.zero false)
  else if power < -308 then do
    let reduced ← start.scaleTen? (-308)
    reduced.scaleTen? (power + 308)
  else start.scaleTen? power

/-- A number after its sign.

What does not fit into the significand still counts in the power of ten if it stands before
the point. -/
def readUnsigned (negative : Bool) : Reader Json := fun cs => do
  let (whole, rest) ← readDigits cs
  if whole.head? = some '0' ∧ whole.length ≠ 1 then none
  let (fraction, rest) ← readFraction rest
  let (exponent, rest) ← readExponent rest
  let n := digitsValue whole
  let isWhole := fraction.isNone ∧ exponent.isNone
  if isWhole ∧ !negative ∧ n < UInt64.size then
    return (.integer n, rest)
  else if isWhole ∧ negative ∧ 0 < n ∧ Int64.minValue.toInt ≤ -n then
    return (.integer (-n), rest)
  else
    let places := fraction.getD []
    let (significand, left) := takeDigits 0 whole
    let (significand, unused) := takeDigits significand places
    let power : Int := exponent.getD 0 + left - (places.length - unused : Nat)
    let value ← scaled? significand power
    let value ← finite? (value.withSign negative)
    return (value, rest)

/-- The elements of an array after its bracket; `more` says that one must follow. -/
def readElements (element : Reader Json) (more : Bool) : Nat → Reader (List Json)
  | 0, _ => none
  | fuel + 1, cs =>
    match more, skipBlank cs with
    | false, ']' :: rest => some ([], rest)
    | _, cs => do
      let (value, rest) ← element cs
      match skipBlank rest with
      | ',' :: rest =>
        let (values, rest) ← readElements element true fuel rest
        return (value :: values, rest)
      | ']' :: rest => return ([value], rest)
      | _ => none

/-- The members of an object after its brace; `more` says that one must follow. -/
def readMembers (element : Reader Json) (more : Bool) : Nat → Reader (List (String × Json))
  | 0, _ => none
  | fuel + 1, cs =>
    match more, skipBlank cs with
    | false, '\x7d' :: rest => some ([], rest)
    | _, '"' :: cs => do
      let (name, rest) ← readString cs
      let rest ← expect [':'] (skipBlank rest)
      let (value, rest) ← element rest
      match skipBlank rest with
      | ',' :: rest =>
        let (members, rest) ← readMembers element true fuel rest
        return ((name, value) :: members, rest)
      | '\x7d' :: rest => return ([(name, value)], rest)
      | _ => none
    | _, _ => none

/-- A value with at most `fuel` levels of nesting. -/
def readValue : Nat → Reader Json
  | 0, _ => none
  | fuel + 1, cs =>
    match skipBlank cs with
    | 'n' :: rest => (expect "ull".toList rest).map (Json.null, ·)
    | 't' :: rest => (expect "rue".toList rest).map (Json.boolean true, ·)
    | 'f' :: rest => (expect "alse".toList rest).map (Json.boolean false, ·)
    | '"' :: rest => (readString rest).map fun (s, rest) => (Json.string s, rest)
    | '[' :: rest =>
      (readElements (readValue fuel) false (rest.length + 1) rest).map
        fun (elements, rest) => (Json.array elements, rest)
    | '\x7b' :: rest =>
      (readMembers (readValue fuel) false (rest.length + 1) rest).map
        fun (members, rest) => (ofMembers members, rest)
    | '-' :: rest => readUnsigned true rest
    | rest => readUnsigned false rest

/-- The value of a text, if the text is one value and nothing else but white space.

No value is nested deeper than its text is long. -/
def read? (s : String) : Option Json := do
  let cs := s.toList
  let (value, rest) ← readValue (cs.length + 1) cs
  if (skipBlank rest).isEmpty then some value else none

end EmacsBatch.Json
