/-!
# Binary floating-point numbers

Numbers of 64-bit binary floating point, kept as exact integers: a finite number is a
significand of at most 53 bits times a power of two. A decimal numeral is rounded to the
nearest such number, a tie going to the even significand, and so is the product of a
number and a power of ten.

Other arithmetic on these numbers is not defined here; they are only read and written.
-/

namespace EmacsBatch.Decimal

/-- A number of 64-bit binary floating point. -/
inductive Binary64 where
  | nan
  | infinite (negative : Bool)
  /-- `significand * 2 ^ exponent`, with at most 53 bits and an exponent from -1074 on; the
  significand has exactly 53 bits unless the exponent is -1074. -/
  | finite (negative : Bool) (significand : Nat) (exponent : Int)
  deriving DecidableEq

namespace Binary64

/-- The least significand of exactly 53 bits. -/
def leastNormal : Nat := 0x10000000000000

/-- Zero, with a sign. -/
def zero (negative : Bool) : Binary64 := .finite negative 0 (-1074)

/-- A ratio as numerator and denominator after multiplication by a power of a base. -/
def scaleRatio (base : Nat) (ratio : Nat × Nat) (power : Int) : Nat × Nat :=
  if power < 0 then (ratio.1, ratio.2 * base.pow power.natAbs)
  else (ratio.1 * base.pow power.natAbs, ratio.2)

/-- The whole number nearest to a ratio, a half going to the even neighbour. -/
def roundHalfEven (ratio : Nat × Nat) : Nat :=
  let quotient := ratio.1 / ratio.2
  let double := 2 * (ratio.1 % ratio.2)
  if double < ratio.2 then quotient
  else if double = ratio.2 then quotient + quotient % 2
  else quotient + 1

/-- The exponent of the greatest power of two that is not above a positive ratio. -/
def binaryOrder (ratio : Nat × Nat) : Int :=
  let guess : Int := (ratio.1.log2 : Int) - (ratio.2.log2 : Int)
  let scaled := scaleRatio 2 ratio (-guess)
  if scaled.1 < scaled.2 then guess - 1 else guess

/-- The number nearest to a positive ratio; beyond the largest finite number it is
infinite. -/
def ofRatio (negative : Bool) (ratio : Nat × Nat) : Binary64 :=
  let exponent := max (binaryOrder ratio - 52) (-1074)
  let significand := roundHalfEven (scaleRatio 2 ratio (-exponent))
  let carried := significand = 2 * leastNormal
  let exponent := if carried then exponent + 1 else exponent
  let significand := if carried then leastNormal else significand
  if exponent > 971 then .infinite negative else .finite negative significand exponent

/-- The number of digits of a number written in base ten. -/
def digitCount (n : Nat) : Nat := (Nat.toDigits 10 n).length

/-- The number nearest to `coefficient * 10 ^ power`.

A numeral that is certainly too large or too small is settled by its order of magnitude
alone, so that no huge power of ten is computed. -/
def ofDecimal (negative : Bool) (coefficient : Nat) (power : Int) : Binary64 :=
  let order := power + digitCount coefficient
  if coefficient = 0 ∨ order < -330 then zero negative
  else if order > 320 then .infinite negative
  else ofRatio negative (scaleRatio 10 (coefficient, 1) power)

/-- The positive or zero number nearest to a ratio. -/
def nearest (ratio : Nat × Nat) : Binary64 :=
  if ratio.1 = 0 then zero false else ofRatio false ratio

/-- The size of a number times, or divided by, the number nearest to a power of ten, rounded.

A power of ten beyond the largest finite number, or the size of what is not finite, has no
such product. -/
def scaleTen? (size : Binary64) (power : Int) : Option Binary64 :=
  match size, ofDecimal false 1 power.natAbs with
  | .finite _ significand exponent, .finite _ ten tenExponent =>
    some (nearest (
      if power < 0 then scaleRatio 2 (significand, ten) (exponent - tenExponent)
      else scaleRatio 2 (significand * ten, 1) (exponent + tenExponent)))
  | _, _ => none

/-- The number of the same size with a sign. -/
def withSign (negative : Bool) : Binary64 → Binary64
  | .nan => .nan
  | .infinite _ => .infinite negative
  | .finite _ significand exponent => .finite negative significand exponent

end Binary64

end EmacsBatch.Decimal
