import Mathlib.Data.Nat.Cast.Order.Field
import BankLedger.Proofs.Number.Rounding

/-!
# The shortest digits read back

The search for the shortest digits ends with a decimal in the interval of the number: a neighbour is
only taken from the interval, and on the last grid that is tried the interval is wider than the
distance between two neighbours.  Trailing zeros are then moved into the exponent, which does not
change the value.
-/

namespace BankLedger.Binary64

theorem tenTo_eq (exponent : Nat) : tenTo exponent = 10 ^ exponent :=
  rfl

/-- The rational number that a decimal stands for. -/
def Decimal.value (decimal : Decimal) : ℚ :=
  decimal.coefficient * 10 ^ decimal.exponent

/-! ## Grids -/

section Grid

variable (quarters other : Nat) (twos tens : Int)

/-- The unit of a grid does not depend on the value that is placed on it. -/
theorem gridRatio_snd : (gridRatio quarters twos tens).2 = (gridRatio other twos tens).2 := by
  simp only [gridRatio]
  split <;> rfl

theorem gridRatio_positive : 0 < (gridRatio quarters twos tens).2 := by
  simp only [gridRatio, twoTo_eq, tenTo_eq]
  split <;> split <;> positivity

/-- A value on a grid, in multiples of the unit. -/
theorem gridRatio_eq :
    ((gridRatio quarters twos tens).1 : ℚ) * 10 ^ tens =
      quarters * 2 ^ twos * (gridRatio quarters twos tens).2 := by
  simp only [gridRatio, twoTo_eq, tenTo_eq]
  split <;> split <;> push_cast
  case isTrue.isTrue manyTens manyTwos =>
    rw [zpow_of_nonneg 2 manyTwos, zpow_of_nonneg 10 manyTens]
    ring
  case isTrue.isFalse manyTens fewTwos =>
    rw [zpow_of_neg 2 (not_le.mp fewTwos), zpow_of_nonneg 10 manyTens]
    field_simp
  case isFalse.isTrue fewTens manyTwos =>
    rw [zpow_of_nonneg 2 manyTwos, zpow_of_neg 10 (not_le.mp fewTens)]
    field_simp
  case isFalse.isFalse fewTens fewTwos =>
    rw [zpow_of_neg 2 (not_le.mp fewTwos), zpow_of_neg 10 (not_le.mp fewTens)]
    field_simp

/-- What a unit of a grid is worth. -/
def unitOf (other : Nat) (twos tens : Int) : ℚ :=
  (gridRatio other twos tens).2 / 10 ^ tens

theorem unitOf_positive : 0 < unitOf other twos tens := by
  have unit : (0 : ℚ) < (gridRatio other twos tens).2 := by
    exact_mod_cast gridRatio_positive other twos tens
  rw [unitOf]
  positivity

theorem cast_gridRatio_fst :
    ((gridRatio quarters twos tens).1 : ℚ) = quarters * 2 ^ twos * unitOf other twos tens := by
  rw [unitOf, gridRatio_snd other quarters, ← mul_div_assoc, ← gridRatio_eq]
  field_simp

variable (coefficient : Nat)

theorem cast_mul_gridRatio_snd :
    ((coefficient * (gridRatio other twos tens).2 : Nat) : ℚ) =
      coefficient * 10 ^ tens * unitOf other twos tens := by
  rw [unitOf, Nat.cast_mul]
  field_simp

theorem gridRatio_lt_iff :
    (gridRatio quarters twos tens).1 < coefficient * (gridRatio other twos tens).2 ↔
      (quarters * 2 ^ twos : ℚ) < coefficient * 10 ^ tens := by
  rw [← Nat.cast_lt (α := ℚ), cast_gridRatio_fst, cast_mul_gridRatio_snd,
    mul_lt_mul_iff_left₀ (unitOf_positive other twos tens)]

theorem lt_gridRatio_iff :
    coefficient * (gridRatio other twos tens).2 < (gridRatio quarters twos tens).1 ↔
      (coefficient * 10 ^ tens : ℚ) < quarters * 2 ^ twos := by
  rw [← Nat.cast_lt (α := ℚ), cast_gridRatio_fst, cast_mul_gridRatio_snd,
    mul_lt_mul_iff_left₀ (unitOf_positive other twos tens)]

theorem gridRatio_eq_iff :
    (gridRatio quarters twos tens).1 = coefficient * (gridRatio other twos tens).2 ↔
      (quarters * 2 ^ twos : ℚ) = coefficient * 10 ^ tens := by
  rw [← Nat.cast_inj (R := ℚ), cast_gridRatio_fst, cast_mul_gridRatio_snd,
    mul_left_inj' (unitOf_positive other twos tens).ne']

theorem eq_gridRatio_iff :
    coefficient * (gridRatio other twos tens).2 = (gridRatio quarters twos tens).1 ↔
      (coefficient * 10 ^ tens : ℚ) = quarters * 2 ^ twos := by
  rw [eq_comm, gridRatio_eq_iff, eq_comm]

end Grid

/-! ## Neighbours -/

/-- The rational number that a finite number stands for, without its sign. -/
def value (number : Binary64) : ℚ :=
  number.significand * 2 ^ number.scale

section Neighbour

variable {tie : Tie} {number : Binary64} {tens : Int} {coefficient : Nat}

theorem value_eq (number : Binary64) :
    ((4 * number.significand : Nat) : ℚ) * 2 ^ (number.scale - 2) = number.value := by
  rw [value, zpow_sub₀ two_ne_zero]
  push_cast
  ring

theorem cast_least (nonzero : number.significand ≠ 0) :
    ((4 * number.significand - number.lowerGap : Nat) : ℚ) * 2 ^ (number.scale - 2) =
      number.least := by
  have gap : number.lowerGap ≤ 4 * number.significand := by
    rw [lowerGap]
    split <;> omega
  rw [Nat.cast_sub gap, least]
  push_cast
  rfl

theorem cast_greatest (number : Binary64) :
    ((4 * number.significand + 2 : Nat) : ℚ) * 2 ^ (number.scale - 2) = number.greatest := by
  rw [greatest]
  push_cast
  rfl

/-- How often a power of ten goes into a finite number. -/
def multiplesBelow (number : Binary64) (tens : Int) : Nat :=
  (gridRatio (4 * number.significand) (number.scale - 2) tens).1 /
    (gridRatio (4 * number.significand) (number.scale - 2) tens).2

theorem multiplesBelow_le (number : Binary64) (tens : Int) :
    (number.multiplesBelow tens : ℚ) * 10 ^ tens ≤ number.value := by
  rw [← value_eq, ← not_lt, ← gridRatio_lt_iff _ (4 * number.significand), not_lt]
  exact Nat.div_mul_le_self ..

theorem lt_multiplesBelow (number : Binary64) (tens : Int) :
    number.value < ((number.multiplesBelow tens + 1 : Nat) : ℚ) * 10 ^ tens := by
  have positive := gridRatio_positive (4 * number.significand) (number.scale - 2) tens
  rw [← value_eq, ← gridRatio_lt_iff _ (4 * number.significand), Nat.mul_comm _ (Prod.snd _)]
  exact Nat.lt_mul_div_succ _ positive

/-- A neighbour is one of the two multiples next to the number, and the one that is taken has been
compared with the end of the interval on its side. -/
theorem neighbour?_cases (nonzero : number.significand ≠ 0)
    (found : neighbour? tie number tens = some coefficient) :
    (coefficient * 10 ^ tens ≤ number.value ∧
        (number.least < coefficient * 10 ^ tens ∨
          number.significand % 2 = 0 ∧ number.least = coefficient * 10 ^ tens)) ∨
      number.value < coefficient * 10 ^ tens ∧
        (coefficient * 10 ^ tens < number.greatest ∨
          number.significand % 2 = 0 ∧ coefficient * 10 ^ tens = number.greatest) := by
  have atMost := number.multiplesBelow_le tens
  have above := number.lt_multiplesBelow tens
  rw [multiplesBelow] at atMost above
  simp only [neighbour?, Bool.and_eq_true, Bool.or_eq_true, decide_eq_true_eq, beq_iff_eq,
    gridRatio_lt_iff, lt_gridRatio_iff, gridRatio_eq_iff, eq_gridRatio_iff] at found
  generalize (gridRatio (4 * number.significand) (number.scale - 2) tens).1 /
    (gridRatio (4 * number.significand) (number.scale - 2) tens).2 = below at *
  simp only [cast_least nonzero, cast_greatest] at found
  split at found
  case isTrue both =>
    split at found
    · cases found
      exact .inl ⟨atMost, both.1⟩
    split at found
    · cases found
      exact .inr ⟨above, both.2⟩
    cases tie <;> cases found
    · exact .inr ⟨above, both.2⟩
    · split
      · exact .inl ⟨atMost, both.1⟩
      · exact .inr ⟨above, both.2⟩
  case isFalse =>
    split at found
    case isTrue belowReads =>
      cases found
      exact .inl ⟨atMost, belowReads⟩
    case isFalse =>
      split at found
      case isTrue aboveReads =>
        cases found
        exact .inr ⟨above, aboveReads⟩
      case isFalse => cases found

theorem least_lt_value (number : Binary64) : number.least < number.value := by
  have place : (0 : ℚ) < 2 ^ number.scale := by positivity
  have gap : (0 : ℚ) < number.lowerGap := by
    rw [lowerGap]
    split <;> norm_num
  rw [least_eq, value, mul_lt_mul_iff_left₀ place]
  linarith

theorem value_add_half (number : Binary64) :
    number.value + 2 ^ (number.scale - 1) = number.greatest := by
  rw [greatest_eq, value, zpow_sub₀ two_ne_zero]
  norm_num
  ring

theorem value_lt_greatest (number : Binary64) : number.value < number.greatest := by
  rw [← value_add_half]
  have half : (0 : ℚ) < 2 ^ (number.scale - 1) := by positivity
  linarith

/-- A neighbour lies in the interval of the number. -/
theorem covers_of_neighbour? (nonzero : number.significand ≠ 0)
    (found : neighbour? tie number tens = some coefficient) :
    number.Covers (coefficient * 10 ^ tens) := by
  rcases neighbour?_cases nonzero found with ⟨atMost, lower⟩ | ⟨above, upper⟩
  · exact ⟨lower, .inl (atMost.trans_lt number.value_lt_greatest)⟩
  · exact ⟨.inl (number.least_lt_value.trans above), upper⟩

/-- On a grid that is finer than half a place the upper neighbour is in the interval. -/
theorem exists_neighbour? (tie : Tie) (fine : (10 : ℚ) ^ tens < 2 ^ (number.scale - 1)) :
    ∃ coefficient, neighbour? tie number tens = some coefficient := by
  have atMost := number.multiplesBelow_le tens
  rw [multiplesBelow] at atMost
  simp only [neighbour?, Bool.and_eq_true, Bool.or_eq_true, decide_eq_true_eq, beq_iff_eq,
    gridRatio_lt_iff, lt_gridRatio_iff, gridRatio_eq_iff, eq_gridRatio_iff]
  generalize (gridRatio (4 * number.significand) (number.scale - 2) tens).1 /
    (gridRatio (4 * number.significand) (number.scale - 2) tens).2 = below at *
  have aboveReads : ((below + 1 : Nat) : ℚ) * 10 ^ tens <
      ((4 * number.significand + 2 : Nat) : ℚ) * 2 ^ (number.scale - 2) := by
    rw [cast_greatest, ← value_add_half]
    push_cast
    linarith
  split
  · split
    · exact ⟨_, rfl⟩
    split
    · exact ⟨_, rfl⟩
    cases tie <;> exact ⟨_, rfl⟩
  · split
    · exact ⟨_, rfl⟩
    · exact ⟨_, if_pos (.inl aboveReads)⟩

/-- A search that comes to a grid with a neighbour ends in the interval. -/
theorem covers_search (nonzero : number.significand ≠ 0) (tries : Nat)
    (found : ∃ coefficient, neighbour? tie number (tens - tries) = some coefficient) :
    number.Covers (search tie number (tries + 1) tens).value := by
  induction tries generalizing tens with
  | zero =>
      obtain ⟨coefficient, found⟩ := found
      rw [Nat.cast_zero, Int.sub_zero] at found
      rw [search, found]
      exact covers_of_neighbour? nonzero found
  | succ tries inductionHypothesis =>
      rw [search]
      split
      case h_1 coefficient found => exact covers_of_neighbour? nonzero found
      case h_2 =>
        refine inductionHypothesis ?_
        rwa [sub_sub, add_comm, ← Nat.cast_succ]

end Neighbour

/-! ## Counting digits -/

theorem lt_ten_pow_length (number : Nat) : (number : ℚ) < 10 ^ (number.repr.length : Int) := by
  have digits := (Nat.length_repr_le_iff number.length_repr_pos).mp (Nat.le_refl number.repr.length)
  rw [zpow_natCast]
  exact_mod_cast digits

theorem ten_pow_length_le {number : Nat} (nonzero : number ≠ 0) :
    (10 : ℚ) ^ ((number.repr.length : Int) - 1) ≤ number := by
  have positive := number.length_repr_pos
  have exponent : (number.repr.length : Int) - 1 = ((number.repr.length - 1 : Nat) : Int) := by
    omega
  rw [exponent, zpow_natCast]
  rcases Nat.eq_zero_or_pos (number.repr.length - 1) with single | several
  · rw [single, pow_zero]
    exact_mod_cast Nat.one_le_iff_ne_zero.mpr nonzero
  · have digits := (Nat.length_repr_le_iff (n := number) several).not.mp (by omega)
    exact_mod_cast not_lt.mp digits

theorem ratio_positive {number : Binary64} (nonzero : number.significand ≠ 0) :
    0 < number.ratio.1 ∧ 0 < number.ratio.2 := by
  have positive := Nat.pos_of_ne_zero nonzero
  rw [ratio]
  split <;> simp only [twoTo_eq] <;> constructor <;> positivity

theorem ratio_eq (number : Binary64) : (number.ratio.1 / number.ratio.2 : ℚ) = number.value := by
  rw [ratio, value]
  split <;> simp only [twoTo_eq, Nat.cast_mul, Nat.cast_pow, Nat.cast_ofNat, Nat.cast_one]
  case isTrue negative =>
    rw [zpow_of_neg 2 negative]
    field_simp
  case isFalse nonnegative =>
    rw [zpow_of_nonneg 2 (not_lt.mp nonnegative), div_one]

/-- A number is not below a tenth of the power of ten above it. -/
theorem decimalOrder_le {number : Binary64} (nonzero : number.significand ≠ 0) :
    (10 : ℚ) ^ (number.decimalOrder - 1) ≤ number.value := by
  obtain ⟨top, bottom⟩ := ratio_positive nonzero
  rw [← ratio_eq, decimalOrder]
  generalize number.ratio = pair at *
  have place : (0 : ℚ) < pair.2 := by exact_mod_cast bottom
  dsimp only
  split
  case isTrue large =>
    have quotient : pair.1 / pair.2 ≠ 0 := (Nat.div_pos large bottom).ne'
    calc (10 : ℚ) ^ (((pair.1 / pair.2).repr.length : Int) - 1)
      _ ≤ (pair.1 / pair.2 : Nat) := ten_pow_length_le quotient
      _ ≤ pair.1 / pair.2 := Nat.cast_div_le
  case isFalse =>
    have digits : pair.2 / pair.1 < 10 ^ (pair.2 / pair.1).repr.length := by
      have digits := lt_ten_pow_length (pair.2 / pair.1)
      rw [zpow_natCast] at digits
      exact_mod_cast digits
    have product : (pair.2 : ℚ) ≤ 10 ^ (pair.2 / pair.1).repr.length * pair.1 := by
      exact_mod_cast ((Nat.div_lt_iff_lt_mul top).mp digits).le
    have exponent : 1 - ((pair.2 / pair.1).repr.length : Int) - 1 =
        -((pair.2 / pair.1).repr.length : Int) := by omega
    rw [exponent, zpow_neg, zpow_natCast, le_div_iff₀ place, inv_mul_le_iff₀ (by positivity)]
    exact product

/-! ## The shortest decimal -/

theorem stripZeros_value (steps : Nat) (decimal : Decimal) :
    (stripZeros steps decimal).value = decimal.value := by
  induction steps generalizing decimal with
  | zero => rfl
  | succ steps inductionHypothesis =>
      rw [stripZeros]
      split
      case isTrue zero =>
        have whole : decimal.coefficient = decimal.coefficient / 10 * 10 := by
          rw [beq_iff_eq] at zero
          omega
        rw [inductionHypothesis, Decimal.value, Decimal.value]
        conv_rhs => rw [whole]
        rw [zpow_add_one₀ (by norm_num)]
        push_cast
        ring
      case isFalse => rfl

/-- Eighteen digits are always enough. -/
theorem last_grid_is_fine {number : Binary64} (nonzero : number.significand ≠ 0) :
    (10 : ℚ) ^ (number.decimalOrder - 1 - (17 : Nat)) < 2 ^ (number.scale - 1) := by
  have place : (0 : ℚ) < 2 ^ number.scale := by positivity
  have bits : (number.significand : ℚ) < 2 ^ 53 := by exact_mod_cast number.significand_lt
  rw [zpow_sub₀ (by norm_num), zpow_natCast, div_lt_iff₀ (by positivity)]
  calc (10 : ℚ) ^ (number.decimalOrder - 1)
    _ ≤ number.significand * 2 ^ number.scale := decimalOrder_le nonzero
    _ < 2 ^ 53 * 2 ^ number.scale := (mul_lt_mul_iff_left₀ place).mpr bits
    _ ≤ 10 ^ 17 * (2 ^ number.scale / 2) := by linarith
    _ = 2 ^ (number.scale - 1) * 10 ^ 17 := by
      rw [zpow_sub_one₀ two_ne_zero]
      ring

/-- The shortest decimal of a positive finite number reads back to it. -/
theorem covers_shortest {number : Binary64} (nonzero : number.significand ≠ 0) (tie : Tie) :
    number.Covers (shortest tie number).value := by
  rw [shortest, stripZeros_value]
  exact covers_search nonzero 17 (exists_neighbour? tie (last_grid_is_fine nonzero))

end BankLedger.Binary64
