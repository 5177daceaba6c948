import BankLedger.Number.Binary64

/-!
# Shortest decimal digits

A finite number is written with the fewest digits that read back to it, and with the nearest of
those.  A decimal reads back if it lies in the interval of reals that round to the number; the ends
belong to the interval exactly if the significand is even.  For each count of digits only the two
neighbours of the number on the grid of that many digits can be nearest, so these two are tested.
-/

namespace BankLedger.Binary64

/-- Which neighbour is taken when two decimals of the same length are equally near. -/
inductive Tie
  | up
  | even
deriving DecidableEq

/-- The number `coefficient * 10 ^ exponent`. -/
structure Decimal where
  coefficient : Nat
  exponent : Int
deriving DecidableEq

/-- The ratio `quarters * 2 ^ twos / 10 ^ tens` as a numerator and a denominator. -/
def gridRatio (quarters : Nat) (twos tens : Int) : Nat × Nat :=
  let top := if 0 ≤ twos then quarters * twoTo twos.natAbs else quarters
  let bottom := if 0 ≤ twos then 1 else twoTo twos.natAbs
  if 0 ≤ tens then (top, bottom * tenTo tens.natAbs) else (top * tenTo tens.natAbs, bottom)

/-- The distance, in quarters of the last place, from a number to the lower end of its interval:
half a place, and a quarter where the spacing halves. -/
def lowerGap (number : Binary64) : Nat :=
  if number.fraction == 0 && 1 < number.exponentField then 1 else 2

/-- The neighbour of a positive finite number on the grid of multiples of `10 ^ tens` that reads
back, the nearer one if both do. -/
def neighbour? (tie : Tie) (number : Binary64) (tens : Int) : Option Nat :=
  let quarters := 4 * number.significand
  let twos := number.scale - 2
  let (value, unit) := gridRatio quarters twos tens
  let (least, _) := gridRatio (quarters - number.lowerGap) twos tens
  let (greatest, _) := gridRatio (quarters + 2) twos tens
  let closed := number.significand % 2 == 0
  let below := value / unit
  let above := below + 1
  let belowReads := least < below * unit || (closed && least == below * unit)
  let aboveReads := above * unit < greatest || (closed && above * unit == greatest)
  let toBelow := value - below * unit
  let toAbove := above * unit - value
  if belowReads && aboveReads then
    if toBelow < toAbove then some below
    else if toAbove < toBelow then some above
    else match tie with
      | .up => some above
      | .even => some (if below % 2 == 0 then below else above)
  else if belowReads then some below
  else if aboveReads then some above
  else none

/-- The power of ten just above a positive finite number. -/
def decimalOrder (number : Binary64) : Int :=
  let (top, bottom) := number.ratio
  if bottom ≤ top then (Nat.repr (top / bottom)).length
  else 1 - (Nat.repr (bottom / top)).length

/-- The first grid that has a neighbour that reads back, from `10 ^ tens` downwards. -/
def search (tie : Tie) (number : Binary64) : Nat → Int → Decimal
  | 0, tens => ⟨0, tens⟩
  | tries + 1, tens =>
      match neighbour? tie number tens with
      | some coefficient => ⟨coefficient, tens⟩
      | none => search tie number tries (tens - 1)

/-- Moves trailing zeros of the coefficient into the exponent. -/
def stripZeros : Nat → Decimal → Decimal
  | 0, decimal => decimal
  | steps + 1, decimal =>
      if decimal.coefficient % 10 == 0 then
        stripZeros steps ⟨decimal.coefficient / 10, decimal.exponent + 1⟩
      else decimal

/-- The shortest decimal that reads back to a positive finite number. -/
def shortest (tie : Tie) (number : Binary64) : Decimal :=
  stripZeros 20 (search tie number 18 (number.decimalOrder - 1))

end BankLedger.Binary64
