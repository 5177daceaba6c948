import Mathlib.Algebra.Order.Field.Power
import Mathlib.Tactic.FieldSimp
import Mathlib.Tactic.Linarith
import Mathlib.Tactic.NormNum
import Mathlib.Tactic.Positivity
import Mathlib.Tactic.Ring
import BankLedger.Number.Shortest

/-!
# Rounding to the nearest number

Around every positive finite number lies an interval of rationals that round to it: half a place up,
half a place down, and only a quarter of a place down where the spacing halves.  The ends belong to
the interval exactly if the significand is even.  A ratio in the interval of a number is rounded to
this number and no other.
-/

namespace BankLedger

theorem twoTo_eq (exponent : Nat) : twoTo exponent = 2 ^ exponent :=
  Nat.one_shiftLeft exponent

theorem zpow_of_nonneg (base : ℚ) {exponent : Int} (nonnegative : 0 ≤ exponent) :
    base ^ exponent = base ^ exponent.natAbs := by
  conv_lhs => rw [← Int.natAbs_of_nonneg nonnegative]
  exact zpow_natCast ..

theorem zpow_of_neg (base : ℚ) {exponent : Int} (negative : exponent < 0) :
    base ^ exponent = (base ^ exponent.natAbs)⁻¹ := by
  conv_lhs => rw [← neg_neg exponent, ← Int.ofNat_natAbs_of_nonpos negative.le]
  rw [zpow_neg, zpow_natCast]

namespace Binary64

/-! ## The fields of a number -/

section Fields

variable (number : Binary64)

theorem significand_lt : number.significand < 2 ^ 53 := by
  have below : number.fraction < 2 ^ 52 := Nat.mod_lt _ (by decide)
  rw [significand, twoTo_eq]
  split <;> omega

theorem least_le_scale : -1074 ≤ number.scale := by
  rw [scale]
  omega

/-- A number above the least scale has the leading bit. -/
theorem le_significand (above : number.scale ≠ -1074) : 2 ^ 52 ≤ number.significand := by
  have normal : number.exponentField ≠ 0 := by
    intro zero
    rw [scale, zero] at above
    contradiction
  rw [significand, if_neg (by simpa using normal), twoTo_eq]
  omega

/-- The bits below the sign are the scale and the significand. -/
theorem magnitude_eq :
    (number.scale + 1074).toNat * 2 ^ 52 + number.significand = number.bits.toNat % 2 ^ 63 := by
  simp only [scale, significand, exponentField, fraction, twoTo_eq, beq_iff_eq]
  split <;> omega

/-- A number is its sign and the bits below it. -/
theorem ofMagnitude_eq :
    ofMagnitude number.isNegative (number.bits.toNat % 2 ^ 63) = number := by
  have range := number.bits.toNat_lt
  rw [ofMagnitude, isNegative, twoTo_eq]
  congr 1
  rw [← UInt64.toNat_inj, UInt64.toNat_ofNat']
  split <;> simp_all <;> omega

/-- The bits of a finite number lie below those of infinity. -/
theorem magnitude_lt (finite : number.exponentField ≠ 2047) :
    number.bits.toNat % 2 ^ 63 < infiniteMagnitude := by
  rw [exponentField, twoTo_eq, twoTo_eq] at finite
  rw [infiniteMagnitude, twoTo_eq]
  omega

variable {number}

theorem scale_le (finite : number.exponentField ≠ 2047) : number.scale ≤ 971 := by
  have range : number.exponentField < 2048 := Nat.mod_lt _ (by decide)
  rw [scale]
  omega

/-- An infinity is known by its sign. -/
theorem infinity_isNegative (infinite : number.isInfinite = true) :
    infinity number.isNegative = number := by
  have magnitude : number.bits.toNat % 2 ^ 63 = infiniteMagnitude := by
    simp only [isInfinite, exponentField, fraction, twoTo_eq, Bool.and_eq_true,
      beq_iff_eq] at infinite
    rw [infiniteMagnitude, twoTo_eq]
    omega
  rw [infinity, ← magnitude, ofMagnitude_eq]

/-- A zero is known by its sign. -/
theorem zero_isNegative (nothing : number.isZero = true) : zero number.isNegative = number := by
  have magnitude : number.bits.toNat % 2 ^ 63 = 0 := by
    simp only [isZero, exponentField, fraction, twoTo_eq, Bool.and_eq_true, beq_iff_eq] at nothing
    omega
  rw [zero, ← magnitude, ofMagnitude_eq]

theorem significand_ne_zero (something : number.isZero = false) : number.significand ≠ 0 := by
  intro nothing
  simp only [significand, twoTo_eq, beq_iff_eq] at nothing
  simp only [isZero, Bool.and_eq_false_iff, beq_eq_false_iff_ne] at something
  split at nothing <;> omega

end Fields

/-! ## Rounding a ratio -/

/-- A ratio within half a place of an integer is rounded to it, if the integer is even where the
distance is exactly half a place. -/
theorem roundDiv_eq {numerator denominator rounded : Nat} (positive : 0 < denominator)
    (lower : 2 * (rounded * denominator) < 2 * numerator + denominator ∨
      rounded % 2 = 0 ∧ 2 * (rounded * denominator) = 2 * numerator + denominator)
    (upper : 2 * numerator < 2 * (rounded * denominator) + denominator ∨
      rounded % 2 = 0 ∧ 2 * numerator = 2 * (rounded * denominator) + denominator) :
    roundDiv numerator denominator = rounded := by
  have division := Nat.div_add_mod numerator denominator
  have remainder := Nat.mod_lt numerator positive
  rw [roundDiv]
  generalize numerator / denominator = quotient at *
  generalize numerator % denominator = rest at *
  rw [Nat.mul_comm] at division
  have atLeast : quotient ≤ rounded := by
    by_contra less
    have steps : (rounded + 1) * denominator ≤ quotient * denominator :=
      Nat.mul_le_mul_right _ (by omega)
    rw [Nat.add_mul] at steps
    omega
  have atMost : rounded ≤ quotient + 1 := by
    by_contra more
    have steps : (quotient + 2) * denominator ≤ rounded * denominator :=
      Nat.mul_le_mul_right _ (by omega)
    rw [Nat.add_mul] at steps
    omega
  have either : rounded = quotient ∨ rounded = quotient + 1 := by omega
  rcases either with rfl | rfl
  case inl =>
    rw [if_pos]
    simp only [Bool.or_eq_true, decide_eq_true_eq, Bool.and_eq_true, beq_iff_eq]
    omega
  case inr =>
    rw [Nat.add_mul, Nat.one_mul] at lower upper
    rw [if_neg]
    simp only [Bool.or_eq_true, decide_eq_true_eq, Bool.and_eq_true, beq_iff_eq]
    omega

theorem shift_positive (numerator : Nat) {denominator : Nat} (positive : 0 < denominator)
    (twos : Int) :
    0 < (shift numerator denominator twos).2 := by
  rw [shift]
  split
  · exact positive
  · rw [twoTo_eq]
    positivity

/-- Shifting divides a ratio by a power of two. -/
theorem shift_eq (numerator denominator : Nat) (twos : Int) :
    ((shift numerator denominator twos).1 : ℚ) / (shift numerator denominator twos).2 =
      numerator / denominator / 2 ^ twos := by
  rw [shift]
  split <;> simp only [twoTo_eq, Nat.cast_mul, Nat.cast_pow, Nat.cast_ofNat]
  case isTrue negative =>
    rw [zpow_of_neg 2 negative]
    field_simp
  case isFalse nonnegative =>
    rw [zpow_of_nonneg 2 (not_lt.mp nonnegative), div_div]

/-- Dividing by the first guess leaves fifty-three or fifty-four integer bits. -/
theorem guess_bounds {numerator denominator : Nat} (someNumerator : numerator ≠ 0)
    (someDenominator : denominator ≠ 0) :
    (2 : ℚ) ^ ((Nat.log2 numerator : Int) - Nat.log2 denominator - 53 + 52) ≤
        numerator / denominator ∧
      (numerator / denominator : ℚ) <
        2 ^ ((Nat.log2 numerator : Int) - Nat.log2 denominator - 53 + 54) := by
  have numeratorLeast : (2 : ℚ) ^ numerator.log2 ≤ numerator := by
    exact_mod_cast Nat.log2_self_le someNumerator
  have numeratorGreatest : (numerator : ℚ) < 2 ^ (numerator.log2 + 1) := by
    exact_mod_cast Nat.lt_log2_self
  have denominatorLeast : (2 : ℚ) ^ denominator.log2 ≤ denominator := by
    exact_mod_cast Nat.log2_self_le someDenominator
  have denominatorGreatest : (denominator : ℚ) < 2 ^ (denominator.log2 + 1) := by
    exact_mod_cast Nat.lt_log2_self
  have positive : (0 : ℚ) < denominator := by exact_mod_cast Nat.pos_of_ne_zero someDenominator
  constructor
  · have exponent : (Nat.log2 numerator : Int) - Nat.log2 denominator - 53 + 52 =
        (numerator.log2 : Int) - ((denominator.log2 + 1 : Nat) : Int) := by omega
    rw [exponent, zpow_sub₀ two_ne_zero, zpow_natCast, zpow_natCast]
    gcongr
  · have exponent : (Nat.log2 numerator : Int) - Nat.log2 denominator - 53 + 54 =
        ((numerator.log2 + 1 : Nat) : Int) - (denominator.log2 : Int) := by omega
    rw [exponent, zpow_sub₀ two_ne_zero, zpow_natCast, zpow_natCast]
    gcongr

/-- The scale of a ratio is the power that leaves fifty-three integer bits, if there is room. -/
theorem exists_scaleOf {numerator denominator : Nat} (someNumerator : numerator ≠ 0)
    (someDenominator : denominator ≠ 0) :
    ∃ power : Int, scaleOf numerator denominator = max power (-1074) ∧
      (2 : ℚ) ^ (power + 52) ≤ numerator / denominator ∧
      (numerator / denominator : ℚ) < 2 ^ (power + 53) := by
  obtain ⟨least, greatest⟩ := guess_bounds someNumerator someDenominator
  rw [scaleOf]
  generalize (Nat.log2 numerator : Int) - Nat.log2 denominator - 53 = guess at *
  have shifted := shift_eq numerator denominator guess
  have positive := shift_positive numerator (Nat.pos_of_ne_zero someDenominator) guess
  generalize shift numerator denominator guess = pair at *
  have integerBits : pair.1 / pair.2 < twoTo 53 ↔
      (numerator / denominator : ℚ) < 2 ^ (guess + 53) := by
    rw [Nat.div_lt_iff_lt_mul positive, twoTo_eq, zpow_add₀ two_ne_zero,
      ← div_lt_iff₀' (by positivity), ← shifted, div_lt_iff₀ (by exact_mod_cast positive)]
    norm_cast
  dsimp only
  split
  case isTrue few => exact ⟨guess, rfl, least, integerBits.mp few⟩
  case isFalse many =>
    refine ⟨guess + 1, rfl, ?_, ?_⟩
    · rw [add_assoc]
      exact not_lt.mp (integerBits.not.mp many)
    · rw [add_assoc]
      exact greatest

/-- The powers of two around a ratio decide its scale. -/
theorem scaleOf_eq {numerator denominator : Nat} {power : Int} (someNumerator : numerator ≠ 0)
    (someDenominator : denominator ≠ 0) (room : -1074 ≤ power)
    (least : power = -1074 ∨ (2 : ℚ) ^ (power + 52) ≤ numerator / denominator)
    (greatest : (numerator / denominator : ℚ) < 2 ^ (power + 53)) :
    scaleOf numerator denominator = power := by
  obtain ⟨other, scaled, otherLeast, otherGreatest⟩ := exists_scaleOf someNumerator someDenominator
  have atMost : other + 52 < power + 53 :=
    (zpow_lt_zpow_iff_right₀ one_lt_two).mp (otherLeast.trans_lt greatest)
  rw [scaled]
  rcases least with bottom | least
  · omega
  · have atLeast : power + 52 < other + 53 :=
      (zpow_lt_zpow_iff_right₀ one_lt_two).mp (least.trans_lt otherGreatest)
    omega

/-- A ratio is rounded to the integer that is within half a place at its scale. -/
theorem nearest_eq_ofMagnitude {numerator denominator rounded : Nat} {power : Int}
    (someNumerator : numerator ≠ 0) (someDenominator : denominator ≠ 0)
    (scaled : scaleOf numerator denominator = power)
    (lower : ((rounded : ℚ) - 1 / 2) * 2 ^ power < numerator / denominator ∨
      rounded % 2 = 0 ∧ ((rounded : ℚ) - 1 / 2) * 2 ^ power = numerator / denominator)
    (upper : (numerator / denominator : ℚ) < (rounded + 1 / 2) * 2 ^ power ∨
      rounded % 2 = 0 ∧ (numerator / denominator : ℚ) = (rounded + 1 / 2) * 2 ^ power)
    (negative : Bool) :
    nearest negative numerator denominator =
      ofMagnitude negative
        (min ((power + 1074).toNat * 2 ^ 52 + rounded) infiniteMagnitude) := by
  have place : (0 : ℚ) < 2 ^ power := by positivity
  have shifted := shift_eq numerator denominator power
  have positive := shift_positive numerator (Nat.pos_of_ne_zero someDenominator) power
  rw [nearest, if_neg (by simpa using someNumerator), scaled]
  dsimp only
  generalize shift numerator denominator power = pair at *
  have ratio : (numerator / denominator : ℚ) = pair.1 / pair.2 * 2 ^ power := by
    rw [shifted, div_mul_cancel₀ _ place.ne']
  have bottom : (0 : ℚ) < pair.2 := by exact_mod_cast positive
  have rounds : roundDiv pair.1 pair.2 = rounded := by
    rw [ratio] at lower upper
    refine roundDiv_eq positive ?_ ?_
    · refine lower.imp (fun inside => ?_) (And.imp_right fun border => ?_)
      · rw [mul_lt_mul_iff_left₀ place, lt_div_iff₀ bottom] at inside
        have doubled : 2 * ((rounded : ℚ) * pair.2) < 2 * pair.1 + pair.2 := by linarith
        exact_mod_cast doubled
      · rw [mul_left_inj' place.ne', eq_div_iff bottom.ne'] at border
        have doubled : 2 * ((rounded : ℚ) * pair.2) = 2 * pair.1 + pair.2 := by linarith
        exact_mod_cast doubled
    · refine upper.imp (fun inside => ?_) (And.imp_right fun border => ?_)
      · rw [mul_lt_mul_iff_left₀ place, div_lt_iff₀ bottom] at inside
        have doubled : 2 * (pair.1 : ℚ) < 2 * (rounded * pair.2) + pair.2 := by linarith
        exact_mod_cast doubled
      · rw [mul_left_inj' place.ne', div_eq_iff bottom.ne'] at border
        have doubled : 2 * (pair.1 : ℚ) = 2 * (rounded * pair.2) + pair.2 := by linarith
        exact_mod_cast doubled
  rw [rounds, twoTo_eq]

/-! ## The interval of a number -/

/-- The lower end of the interval of a positive finite number. -/
def least (number : Binary64) : ℚ :=
  (4 * number.significand - number.lowerGap) * 2 ^ (number.scale - 2)

/-- The upper end of the interval of a positive finite number. -/
def greatest (number : Binary64) : ℚ :=
  (4 * number.significand + 2) * 2 ^ (number.scale - 2)

/-- A value lies in the interval of a number, whose ends belong to it if the significand is even. -/
structure Covers (number : Binary64) (value : ℚ) : Prop where
  lower : number.least < value ∨ number.significand % 2 = 0 ∧ number.least = value
  upper : value < number.greatest ∨ number.significand % 2 = 0 ∧ value = number.greatest

theorem greatest_eq (number : Binary64) :
    number.greatest = ((number.significand : ℚ) + 1 / 2) * 2 ^ number.scale := by
  rw [greatest, zpow_sub₀ two_ne_zero]
  norm_num
  ring

theorem least_eq (number : Binary64) :
    number.least = ((number.significand : ℚ) - number.lowerGap / 4) * 2 ^ number.scale := by
  rw [least, zpow_sub₀ two_ne_zero]
  norm_num
  ring

section Covers

variable {number : Binary64} {value : ℚ}

/-- The interval reaches at most half a place down. -/
theorem Covers.half_place (covers : number.Covers value) :
    ((number.significand : ℚ) - 1 / 2) * 2 ^ number.scale < value ∨
      number.significand % 2 = 0 ∧
        ((number.significand : ℚ) - 1 / 2) * 2 ^ number.scale = value := by
  have place : (0 : ℚ) < 2 ^ number.scale := by positivity
  have lower := covers.lower
  rw [least_eq, lowerGap] at lower
  split at lower
  case isTrue =>
    have further : ((number.significand : ℚ) - 1 / 2) * 2 ^ number.scale <
        ((number.significand : ℚ) - (1 : Nat) / 4) * 2 ^ number.scale := by
      rw [mul_lt_mul_iff_left₀ place]
      norm_num
    rcases lower with inside | ⟨_, border⟩
    · exact .inl (further.trans inside)
    · exact .inl (further.trans_eq border)
  case isFalse =>
    have same : ((2 : Nat) : ℚ) / 4 = 1 / 2 := by norm_num
    rwa [same] at lower

theorem Covers.le_greatest (covers : number.Covers value) :
    value ≤ ((number.significand : ℚ) + 1 / 2) * 2 ^ number.scale := by
  rw [← greatest_eq]
  exact covers.upper.elim le_of_lt fun border => border.2.le

/-- Only the part of an interval where the spacing halves lies below the power of two at which the
scale of the number starts. -/
theorem Covers.of_lt (covers : number.Covers value) (above : number.scale ≠ -1074)
    (below : value < 2 ^ (number.scale + 52)) :
    number.significand = 2 ^ 52 ∧ number.lowerGap = 1 := by
  have place : (0 : ℚ) < 2 ^ number.scale := by positivity
  have atLeast := number.le_significand above
  have atMost : number.significand < 2 ^ 52 + 1 := by
    have half : ((number.significand : ℚ) - 1 / 2) * 2 ^ number.scale ≤ value :=
      covers.half_place.elim le_of_lt fun border => border.2.le
    have power : (2 : ℚ) ^ (number.scale + 52) = 2 ^ 52 * 2 ^ number.scale := by
      rw [zpow_add₀ two_ne_zero, mul_comm]
      norm_cast
    rw [power] at below
    have few := (mul_lt_mul_iff_left₀ place).mp (half.trans_lt below)
    have more : (number.significand : ℚ) < 2 ^ 52 + 1 := by linarith
    exact_mod_cast more
  have exact : number.significand = 2 ^ 52 := by omega
  refine ⟨exact, ?_⟩
  have exponent : 1 < number.exponentField := by
    rw [scale] at above
    omega
  have fraction : number.fraction = 0 := by
    rw [significand, if_neg (by simp; omega), twoTo_eq] at exact
    omega
  rw [lowerGap, fraction, if_pos (by simpa using exponent)]

variable {numerator denominator : Nat}

/-- The scale of a value in an interval is that of the number, where the value has enough bits for
it. -/
theorem Covers.nearest_eq_of_le (finite : number.exponentField ≠ 2047)
    (someNumerator : numerator ≠ 0) (someDenominator : denominator ≠ 0)
    (covers : number.Covers (numerator / denominator))
    (full : number.scale = -1074 ∨ (2 : ℚ) ^ (number.scale + 52) ≤ numerator / denominator) :
    nearest number.isNegative numerator denominator = number := by
  have place : (0 : ℚ) < 2 ^ number.scale := by positivity
  have scaled : scaleOf numerator denominator = number.scale := by
    refine scaleOf_eq someNumerator someDenominator number.least_le_scale full ?_
    have few : (number.significand : ℚ) + 1 / 2 < 2 ^ 53 := by
      have less : (number.significand : ℚ) + 1 ≤ 2 ^ 53 := by exact_mod_cast number.significand_lt
      linarith
    calc (numerator / denominator : ℚ)
      _ ≤ ((number.significand : ℚ) + 1 / 2) * 2 ^ number.scale := covers.le_greatest
      _ < 2 ^ 53 * 2 ^ number.scale := (mul_lt_mul_iff_left₀ place).mpr few
      _ = 2 ^ (number.scale + 53) := by
        rw [zpow_add₀ two_ne_zero, mul_comm]
        norm_cast
  have upper := covers.upper
  rw [greatest_eq] at upper
  rw [nearest_eq_ofMagnitude someNumerator someDenominator scaled covers.half_place upper,
    magnitude_eq, Nat.min_eq_left (number.magnitude_lt finite).le, ofMagnitude_eq]

/-- A value that has a bit less than the scale of its number is rounded up to a power of two. -/
theorem Covers.nearest_eq_of_lt (finite : number.exponentField ≠ 2047)
    (someNumerator : numerator ≠ 0) (someDenominator : denominator ≠ 0)
    (covers : number.Covers (numerator / denominator)) (above : number.scale ≠ -1074)
    (less : (numerator / denominator : ℚ) < 2 ^ (number.scale + 52)) :
    nearest number.isNegative numerator denominator = number := by
  have scales := number.least_le_scale
  obtain ⟨exact, gap⟩ := covers.of_lt above less
  have same : (number.scale - 1 + 1074).toNat * 2 ^ 52 + 2 ^ 53 = number.bits.toNat % 2 ^ 63 := by
    have step : (number.scale + 1074).toNat = (number.scale - 1 + 1074).toNat + 1 := by omega
    rw [← magnitude_eq, exact, step]
    ring
  have place : (0 : ℚ) < 2 ^ (number.scale - 1) := by positivity
  have half : (2 : ℚ) ^ number.scale = 2 * 2 ^ (number.scale - 1) := by
    rw [zpow_sub₀ two_ne_zero]
    ring
  have border : number.least = (((2 ^ 53 : Nat) : ℚ) - 1 / 2) * 2 ^ (number.scale - 1) := by
    rw [least_eq, gap, exact, half]
    norm_num
    ring
  have lower : (((2 ^ 53 : Nat) : ℚ) - 1 / 2) * 2 ^ (number.scale - 1) < numerator / denominator ∨
      2 ^ 53 % 2 = 0 ∧
        (((2 ^ 53 : Nat) : ℚ) - 1 / 2) * 2 ^ (number.scale - 1) = numerator / denominator := by
    rw [← border]
    exact covers.lower.imp_right fun border => ⟨by norm_num, border.2⟩
  have below : (numerator / denominator : ℚ) < 2 ^ (number.scale - 1 + 53) := by
    have exponent : number.scale - 1 + 53 = number.scale + 52 := by ring
    rwa [exponent]
  have scaled : scaleOf numerator denominator = number.scale - 1 := by
    refine scaleOf_eq someNumerator someDenominator (by omega) (.inr ?_) below
    calc (2 : ℚ) ^ (number.scale - 1 + 52)
      _ = 2 ^ 52 * 2 ^ (number.scale - 1) := by
        rw [zpow_add₀ two_ne_zero, mul_comm]
        norm_cast
      _ ≤ (((2 ^ 53 : Nat) : ℚ) - 1 / 2) * 2 ^ (number.scale - 1) := by
        rw [mul_le_mul_iff_left₀ place]
        norm_num
      _ ≤ numerator / denominator := lower.elim le_of_lt fun border => border.2.le
  have upper : (numerator / denominator : ℚ) <
      (((2 ^ 53 : Nat) : ℚ) + 1 / 2) * 2 ^ (number.scale - 1) := by
    refine below.trans ?_
    rw [zpow_add₀ two_ne_zero, mul_comm, mul_lt_mul_iff_left₀ place]
    norm_num
  rw [nearest_eq_ofMagnitude someNumerator someDenominator scaled lower (.inl upper), same,
    Nat.min_eq_left (number.magnitude_lt finite).le, ofMagnitude_eq]

/-- A ratio in the interval of a finite number is rounded to the number. -/
theorem Covers.nearest_eq (finite : number.exponentField ≠ 2047)
    (someNumerator : numerator ≠ 0) (someDenominator : denominator ≠ 0)
    (covers : number.Covers (numerator / denominator)) :
    nearest number.isNegative numerator denominator = number := by
  by_cases full : number.scale = -1074 ∨ (2 : ℚ) ^ (number.scale + 52) ≤ numerator / denominator
  case pos => exact covers.nearest_eq_of_le finite someNumerator someDenominator full
  case neg =>
    rw [not_or, not_le] at full
    exact covers.nearest_eq_of_lt finite someNumerator someDenominator full.1 full.2

end Covers

end Binary64

end BankLedger
