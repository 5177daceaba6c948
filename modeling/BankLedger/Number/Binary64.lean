/-!
# Binary floating-point numbers

A double-precision number is its sixty-four bits: a sign, an eleven-bit exponent and a fifty-two bit
fraction.  Keeping the bits makes equality decidable and lets every rounding be done in exact
arithmetic on naturals.  The central function is `nearest`, which rounds a ratio to the closest
number and a tie to the one with an even fraction.
-/

namespace BankLedger

/-- A double-precision number, given by its bits. -/
structure Binary64 where
  bits : UInt64
deriving DecidableEq

/-- A power of two. -/
def twoTo (exponent : Nat) : Nat :=
  1 <<< exponent

/-- A power of ten. -/
def tenTo (exponent : Nat) : Nat :=
  Nat.pow 10 exponent

namespace Binary64

/-- Whether the sign bit is set. -/
def isNegative (number : Binary64) : Bool :=
  twoTo 63 ≤ number.bits.toNat

/-- The stored exponent, 2047 for infinities and NaN. -/
def exponentField (number : Binary64) : Nat :=
  number.bits.toNat / twoTo 52 % twoTo 11

/-- The stored fraction. -/
def fraction (number : Binary64) : Nat :=
  number.bits.toNat % twoTo 52

/-- Not a number. -/
def isNaN (number : Binary64) : Bool :=
  number.exponentField == 2047 && number.fraction != 0

/-- An infinity of either sign. -/
def isInfinite (number : Binary64) : Bool :=
  number.exponentField == 2047 && number.fraction == 0

/-- A zero of either sign. -/
def isZero (number : Binary64) : Bool :=
  number.exponentField == 0 && number.fraction == 0

/-- The integer that a finite number scales, with the leading bit that normal numbers imply. -/
def significand (number : Binary64) : Nat :=
  if number.exponentField == 0 then number.fraction else number.fraction + twoTo 52

/-- The power of two that scales the significand of a finite number. -/
def scale (number : Binary64) : Int :=
  (max number.exponentField 1 : Int) - 1075

/-- The number with the given sign whose other bits are the given magnitude. -/
def ofMagnitude (negative : Bool) (magnitude : Nat) : Binary64 :=
  ⟨UInt64.ofNat (if negative then magnitude + twoTo 63 else magnitude)⟩

/-- The magnitude that stands for infinity; smaller ones stand for finite numbers. -/
def infiniteMagnitude : Nat :=
  2047 * twoTo 52

/-- A quiet NaN. -/
def nan : Binary64 :=
  ofMagnitude false (infiniteMagnitude + twoTo 51)

/-- An infinity. -/
def infinity (negative : Bool) : Binary64 :=
  ofMagnitude negative infiniteMagnitude

/-- A zero. -/
def zero (negative : Bool) : Binary64 :=
  ofMagnitude negative 0

/-- Equality of the numbers meant: the two zeros are equal, and NaN equals nothing. -/
def equals (left right : Binary64) : Bool :=
  !left.isNaN && !right.isNaN && (left == right || (left.isZero && right.isZero))

/-- The quotient rounded to the nearest integer, a tie to the even one. -/
def roundDiv (numerator denominator : Nat) : Nat :=
  let quotient := numerator / denominator
  let twice := 2 * (numerator % denominator)
  if twice < denominator || (twice == denominator && quotient % 2 == 0) then quotient
  else quotient + 1

/-- The ratio `numerator / denominator * 2 ^ (-twos)` as a numerator and a denominator. -/
def shift (numerator denominator : Nat) (twos : Int) : Nat × Nat :=
  if twos < 0 then (numerator * twoTo twos.natAbs, denominator)
  else (numerator, denominator * twoTo twos.natAbs)

/-- The power of two by which a positive ratio is divided to get fifty-three integer bits, or the
least power that finite numbers have. -/
def scaleOf (numerator denominator : Nat) : Int :=
  let guess : Int := (Nat.log2 numerator : Int) - Nat.log2 denominator - 53
  let (top, bottom) := shift numerator denominator guess
  max (if top / bottom < twoTo 53 then guess else guess + 1) (-1074)

/-- The number nearest to a ratio with the given sign, infinity when it is beyond every finite
number. -/
def nearest (negative : Bool) (numerator denominator : Nat) : Binary64 :=
  if numerator == 0 then zero negative
  else
    let power := scaleOf numerator denominator
    let (top, bottom) := shift numerator denominator power
    let magnitude := (power + 1074).toNat * twoTo 52 + roundDiv top bottom
    ofMagnitude negative (min magnitude infiniteMagnitude)

/-- The magnitude of a finite number as a ratio. -/
def ratio (number : Binary64) : Nat × Nat :=
  if number.scale < 0 then (number.significand, twoTo number.scale.natAbs)
  else (number.significand * twoTo number.scale.natAbs, 1)

/-- The number nearest to a natural number. -/
def ofNat (value : Nat) : Binary64 :=
  nearest false value 1

/-- The number nearest to the product of two finite magnitudes. -/
def mulMagnitude (left right : Binary64) : Binary64 :=
  nearest false (left.ratio.1 * right.ratio.1) (left.ratio.2 * right.ratio.2)

/-- The number nearest to the quotient of two finite magnitudes. -/
def divMagnitude (left right : Binary64) : Binary64 :=
  nearest false (left.ratio.1 * right.ratio.2) (left.ratio.2 * right.ratio.1)

/-- The number with its sign changed. -/
def negate (number : Binary64) : Binary64 :=
  ofMagnitude (!number.isNegative) (number.bits.toNat % twoTo 63)

/-- The number nearest to `coefficient * 10 ^ exponent` with the given sign.  Exponents so large or
so small that the result cannot be finite or cannot differ from zero are not expanded. -/
def ofDecimal (negative : Bool) (coefficient : Nat) (exponent : Int) : Binary64 :=
  let order := (Nat.repr coefficient).length + exponent
  if coefficient == 0 || order < -400 then zero negative
  else if 400 < order then infinity negative
  else if exponent < 0 then nearest negative coefficient (tenTo exponent.natAbs)
  else nearest negative (coefficient * tenTo exponent.natAbs) 1

end Binary64

end BankLedger
