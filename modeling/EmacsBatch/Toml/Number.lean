import EmacsBatch.Decimal.Shortest
import EmacsBatch.Toml.Scan

/-!
# Numbers in configuration files

Whole numbers have 64 bits and a sign, and may be written in base ten, sixteen, eight or
two. Floating-point numbers need a fraction or an exponent. Single underscores may stand
between digits.
-/

namespace EmacsBatch.Toml

/-- Numerals in messages about a file are all positional, and a tie goes to the greater of
two numerals. -/
def numerals : Decimal.NumeralStyle := ⟨.up, none⟩

/-- Digits with single underscores between them, without the underscores. -/
def digits (isDigit : Char → Bool) : Scan (List Char) := do
  let first ← Scan.satisfy isDigit
  let rest ← Scan.many (Scan.satisfy isDigit <|> (do Scan.char '_'; Scan.satisfy isDigit))
  return first :: rest

/-- The value of a digit in a base of at most sixteen. -/
def digitValue (c : Char) : Nat :=
  if c.toNat < 0x3A then c.toNat - 0x30
  else if c.toNat < 0x47 then c.toNat - 0x41 + 10
  else c.toNat - 0x61 + 10

/-- The number that digits stand for in a base. -/
def numberOf (base : Nat) (cs : List Char) : Nat :=
  cs.foldl (fun n c => n * base + digitValue c) 0

/-- An optional sign; `true` stands for minus. -/
def sign : Scan Bool :=
  (do Scan.char '-'; return true) <|> (do Scan.char '+'; return false) <|> pure false

/-- Decimal digits that do not begin with a superfluous zero. -/
def plainDigits : Scan (List Char) :=
  (do Scan.char '0'; return ['0']) <|> digits Char.isDigit

/-- A number in a base that is marked by a letter after a zero. -/
def based (letter : Char) (base : Nat) (isDigit : Char → Bool) : Scan Nat := do
  Scan.chars ['0', letter]
  return numberOf base (← digits isDigit)

/-- Whether a character is a digit in base sixteen. -/
def isHexDigit (c : Char) : Bool :=
  c.isDigit || ('a' ≤ c && c ≤ 'f') || ('A' ≤ c && c ≤ 'F')

/-- A whole number. -/
def integer : Scan Int := do
  let value ←
    (do return Int.ofNat (← based 'x' 16 isHexDigit))
      <|> (do return Int.ofNat (← based 'o' 8 fun c => '0' ≤ c && c ≤ '7'))
      <|> (do return Int.ofNat (← based 'b' 2 fun c => c = '0' || c = '1'))
      <|> (do
        let negative ← sign
        let n := numberOf 10 (← plainDigits)
        return if negative then -Int.ofNat n else Int.ofNat n)
  if Int64.minValue.toInt ≤ value ∧ value ≤ Int64.maxValue.toInt then return value else failure

/-- The exponent of a floating-point number. -/
def exponent : Scan Int := do
  Scan.char 'e' <|> Scan.char 'E'
  let negative ← sign
  let n := numberOf 10 (← digits Char.isDigit)
  return if negative then -Int.ofNat n else Int.ofNat n

/-- A floating-point number in digits.

A positive one must not be too large; a negative one that is too large is infinite. -/
def decimalFloat : Scan Decimal.Binary64 := do
  let negative ← sign
  let whole ← plainDigits
  let (fraction, power) ←
    (do return ([], ← exponent))
      <|> (do
        Scan.char '.'
        let fraction ← digits Char.isDigit
        return (fraction, (← Scan.optional exponent).getD 0))
  let value := Decimal.Binary64.ofDecimal negative (numberOf 10 (whole ++ fraction))
    (power - (fraction.length : Int))
  if value = .infinite false then failure else return value

/-- A floating-point number that is written as a word. -/
def wordFloat : Scan Decimal.Binary64 := do
  let negative ← sign
  (do Scan.chars ['i', 'n', 'f']; return .infinite negative)
    <|> (do Scan.chars ['n', 'a', 'n']; return .nan)

/-- A floating-point number. -/
def float : Scan Decimal.Binary64 := decimalFloat <|> wordFloat

end EmacsBatch.Toml
