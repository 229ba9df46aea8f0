import EmacsBatch.Decimal.Binary64

/-!
# Shortest decimal numerals

A floating-point number is written with the fewest significant digits that read back as
the same number, and among those the ones nearest to it. How the digits are laid out is a
matter of style: a style settles ties and says which numerals are positional, that is to
say have all their digits around a point; the others have one digit before the point and
an exponent.
-/

namespace EmacsBatch.Decimal

/-- The digits `coefficient`, the last of which counts units of `10 ^ power`. -/
structure Numeral where
  coefficient : Nat
  power : Int
  deriving DecidableEq

/-- The numeral of the same value without zeros at the end of its digits. -/
def Numeral.trimmed (n : Numeral) : Numeral :=
  if n.coefficient ≠ 0 ∧ n.coefficient % 10 = 0 then
    Numeral.trimmed ⟨n.coefficient / 10, n.power + 1⟩
  else n
termination_by n.coefficient
decreasing_by omega

/-- Which of two numerals of one length is taken when they are equally near. -/
inductive Tie where
  /-- The greater one. -/
  | up
  /-- The one whose last digit is even. -/
  | even
  deriving DecidableEq

/-- How floating-point numbers are written.

A numeral is positional if the number of its digits before the point, which is negative
for each zero right after the point, lies between the two bounds; without bounds all
numerals are. -/
structure NumeralStyle where
  tie : Tie
  bounds : Option (Int × Int)

/-- A positive finite number together with the interval of all reals that round to it.

The three bounds count units of `2 ^ unit`; the ends belong to the interval exactly when
the significand is even. -/
structure Rounding where
  low : Nat
  value : Nat
  high : Nat
  unit : Int
  closed : Bool

/-- The interval of the number `significand * 2 ^ exponent`. Below a power of two the
neighbouring number is only half as far away. -/
def Rounding.ofFinite (significand : Nat) (exponent : Int) : Rounding where
  low := if significand = Binary64.leastNormal ∧ exponent > -1074 then 4 * significand - 1
    else 4 * significand - 2
  value := 4 * significand
  high := 4 * significand + 2
  unit := exponent - 2
  closed := significand % 2 = 0

/-- Whether `count` units of the decimal grid `10 ^ power` lie in the interval. -/
def Rounding.holds (r : Rounding) (power : Int) (count : Nat) : Bool :=
  let point := Binary64.scaleRatio 2 (Binary64.scaleRatio 10 (count, 1) power) (-r.unit)
  let below := r.low * point.2
  let above := r.high * point.2
  if r.closed then below ≤ point.1 && point.1 ≤ above else below < point.1 && point.1 < above

/-- The value as a ratio of units of the decimal grid `10 ^ power`. -/
def Rounding.onGrid (r : Rounding) (power : Int) : Nat × Nat :=
  Binary64.scaleRatio 10 (Binary64.scaleRatio 2 (r.value, 1) r.unit) (-power)

/-- The least power of ten that is above the value. -/
def Rounding.order (r : Rounding) : Int :=
  let ratio := Binary64.scaleRatio 2 (r.value, 1) r.unit
  if ratio.2 ≤ ratio.1 then Binary64.digitCount (ratio.1 / ratio.2)
  else 1 - (Binary64.digitCount ((ratio.2 - 1) / ratio.1) : Int)

/-- The point of a decimal grid in the interval that is nearest to the value, if a
neighbour of the value on that grid lies in the interval. -/
def Rounding.nearest? (r : Rounding) (tie : Tie) (power : Int) : Option Nat :=
  let ratio := r.onGrid power
  let below := ratio.1 / ratio.2
  let double := 2 * (ratio.1 % ratio.2)
  let upper := decide (ratio.2 < double) ||
    (ratio.2 == double && (tie == .up || below % 2 == 1))
  match r.holds power below, r.holds power (below + 1) with
  | true, true => some (if upper then below + 1 else below)
  | true, false => some below
  | false, true => some (below + 1)
  | false, false => none

/-- The first hit among grids of `digits`, `digits + 1`, … digits. -/
def Rounding.search (r : Rounding) (tie : Tie) (order : Int) (digits : Nat) : Nat → Numeral
  | 0 => ⟨0, 0⟩
  | tries + 1 =>
    match r.nearest? tie (order - digits) with
    | some coefficient => ⟨coefficient, order - digits⟩
    | none => r.search tie order (digits + 1) tries

/-- The shortest numeral of a positive finite number; seventeen digits always suffice.

A number just below a power of ten may round up to it, which leaves zeros to trim. -/
def Rounding.shortest (r : Rounding) (tie : Tie) : Numeral :=
  (r.search tie r.order 1 17).trimmed

/-- The characters of a numeral with a decimal point and a digit on either side of it. -/
def Numeral.positional (n : Numeral) : List Char :=
  let digits := Nat.toDigits 10 n.coefficient
  if 0 ≤ n.power then digits ++ List.replicate n.power.toNat '0' ++ ['.', '0']
  else
    let places := n.power.natAbs
    let padded := List.replicate (places + 1 - digits.length) '0' ++ digits
    padded.take (padded.length - places) ++ '.' :: padded.drop (padded.length - places)

/-- The characters of a numeral with one digit before the point, if there are digits after
it, and with an exponent that always has a sign. -/
def Numeral.scientific (n : Numeral) : List Char :=
  let digits := Nat.toDigits 10 n.coefficient
  let exponent := n.power + digits.length - 1
  digits.take 1 ++ (if digits.length = 1 then [] else '.' :: digits.drop 1)
    ++ 'e' :: (if exponent < 0 then '-' else '+') :: Nat.toDigits 10 exponent.natAbs

/-- The characters of a numeral in a style. -/
def Numeral.chars (style : NumeralStyle) (n : Numeral) : List Char :=
  let whole := n.power + Binary64.digitCount n.coefficient
  match style.bounds with
  | some (least, greatest) =>
    if least ≤ whole ∧ whole ≤ greatest then n.positional else n.scientific
  | none => n.positional

/-- The text of a floating-point number in a style. -/
def Binary64.text (style : NumeralStyle) : Binary64 → String
  | .nan => "NaN"
  | .infinite negative => if negative then "-inf" else "inf"
  | .finite negative significand exponent =>
    let numeral :=
      if significand = 0 then ⟨0, 0⟩
      else (Rounding.ofFinite significand exponent).shortest style.tie
    String.ofList ((if negative then ['-'] else []) ++ numeral.chars style)

end EmacsBatch.Decimal
