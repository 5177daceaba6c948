import BankLedger.Number.Layout
import BankLedger.Proofs.Number.Shortest
import BankLedger.Proofs.Text.Digits

/-!
# Texts of numbers read back

The plain text of a number that is not NaN is read as the number itself, bit for bit.  The digits of
the shortest decimal are laid out around a point; reading takes them for another decimal of the same
value, and any decimal in the interval of a number is rounded to the number.
-/

namespace BankLedger.Binary64

open BankLedger.Text

/-! ## Reading a decimal -/

section Decimal

variable {number : Binary64}

/-- Half the least positive number is below every interval. -/
theorem le_least (nonzero : number.significand ≠ 0) : (2 : ℚ) ^ (-1075 : Int) ≤ number.least := by
  have place : (0 : ℚ) < 2 ^ number.scale := by positivity
  have whole : (1 : ℚ) ≤ number.significand := by
    exact_mod_cast Nat.one_le_iff_ne_zero.mpr nonzero
  have gap : (number.lowerGap : ℚ) ≤ 2 := by
    rw [lowerGap]
    split <;> norm_num
  calc (2 : ℚ) ^ (-1075 : Int)
    _ ≤ 2 ^ (number.scale - 1) :=
      zpow_le_zpow_right₀ one_le_two (by have := number.least_le_scale; omega)
    _ = 1 / 2 * 2 ^ number.scale := by
      rw [zpow_sub_one₀ two_ne_zero]
      ring
    _ ≤ (number.significand - number.lowerGap / 4) * 2 ^ number.scale := by
      rw [mul_le_mul_iff_left₀ place]
      linarith
    _ = number.least := (least_eq number).symm

/-- The intervals of the finite numbers end below a power of two. -/
theorem greatest_le (finite : number.exponentField ≠ 2047) :
    number.greatest ≤ 2 ^ (1024 : Int) := by
  have place : (0 : ℚ) < 2 ^ number.scale := by positivity
  have bits : (number.significand : ℚ) + 1 ≤ 2 ^ 53 := by exact_mod_cast number.significand_lt
  calc number.greatest
    _ = (number.significand + 1 / 2) * 2 ^ number.scale := greatest_eq number
    _ ≤ 2 ^ 53 * 2 ^ number.scale := by
      rw [mul_le_mul_iff_left₀ place]
      linarith
    _ = 2 ^ (number.scale + 53) := by
      rw [zpow_add₀ two_ne_zero, mul_comm]
      norm_cast
    _ ≤ 2 ^ (1024 : Int) := zpow_le_zpow_right₀ one_le_two (by have := scale_le finite; omega)

theorem two_zpow_le_ten_zpow : (2 : ℚ) ^ (1200 : Int) ≤ 10 ^ (400 : Int) := by
  calc (2 : ℚ) ^ (1200 : Int)
    _ = (2 ^ 3) ^ (400 : Int) := by
      rw [← zpow_natCast, ← zpow_mul]
      norm_num
    _ ≤ 10 ^ (400 : Int) := zpow_le_zpow_left₀ (by norm_num) (by norm_num) (by norm_num)

/-- Every decimal in the interval of a finite number is read as the number. -/
theorem Covers.ofDecimal_eq {coefficient : Nat} {exponent : Int}
    (finite : number.exponentField ≠ 2047) (nonzero : number.significand ≠ 0)
    (covers : number.Covers (coefficient * 10 ^ exponent)) :
    ofDecimal number.isNegative coefficient exponent = number := by
  have place : (0 : ℚ) < 10 ^ exponent := by positivity
  have lower : (2 : ℚ) ^ (-1075 : Int) ≤ coefficient * 10 ^ exponent :=
    (le_least nonzero).trans (covers.lower.elim le_of_lt fun border => border.2.le)
  have upper : (coefficient * 10 ^ exponent : ℚ) ≤ 2 ^ (1024 : Int) :=
    (covers.upper.elim le_of_lt fun border => border.2.le).trans (greatest_le finite)
  have someDigits : coefficient ≠ 0 := by
    rintro rfl
    have positive : (0 : ℚ) < 2 ^ (-1075 : Int) := by positivity
    rw [Nat.cast_zero, zero_mul] at lower
    exact absurd lower (not_le.mpr positive)
  have notTiny : -400 ≤ (coefficient.repr.length : Int) + exponent := by
    by_contra tiny
    have less : (2 : ℚ) ^ (-1075 : Int) < 2 ^ (-1200 : Int) := by
      calc (2 : ℚ) ^ (-1075 : Int)
        _ ≤ coefficient * 10 ^ exponent := lower
        _ < 10 ^ (coefficient.repr.length : Int) * 10 ^ exponent :=
          (mul_lt_mul_iff_left₀ place).mpr (lt_ten_pow_length coefficient)
        _ = 10 ^ ((coefficient.repr.length : Int) + exponent) := (zpow_add₀ (by norm_num) ..).symm
        _ ≤ 10 ^ (-400 : Int) := zpow_le_zpow_right₀ (by norm_num) (by omega)
        _ ≤ 2 ^ (-1200 : Int) := by
          rw [zpow_neg, zpow_neg]
          exact inv_anti₀ (by positivity) two_zpow_le_ten_zpow
    exact absurd ((zpow_lt_zpow_iff_right₀ one_lt_two).mp less) (by decide)
  have notHuge : (coefficient.repr.length : Int) + exponent ≤ 400 := by
    by_contra huge
    have less : (2 : ℚ) ^ (1200 : Int) ≤ 2 ^ (1024 : Int) := by
      calc (2 : ℚ) ^ (1200 : Int)
        _ ≤ 10 ^ (400 : Int) := two_zpow_le_ten_zpow
        _ ≤ 10 ^ ((coefficient.repr.length : Int) - 1 + exponent) :=
          zpow_le_zpow_right₀ (by norm_num) (by omega)
        _ = 10 ^ ((coefficient.repr.length : Int) - 1) * 10 ^ exponent := zpow_add₀ (by norm_num) ..
        _ ≤ coefficient * 10 ^ exponent :=
          (mul_le_mul_iff_left₀ place).mpr (ten_pow_length_le someDigits)
        _ ≤ 2 ^ (1024 : Int) := upper
    exact absurd ((zpow_le_zpow_iff_right₀ one_lt_two).mp less) (by decide)
  rw [ofDecimal, if_neg (by simp [someDigits]; omega), if_neg (by omega)]
  split
  case isTrue negative =>
    refine Covers.nearest_eq finite someDigits (Nat.pow_pos (by decide)).ne' ?_
    rwa [tenTo_eq, Nat.cast_pow, div_eq_mul_inv, Nat.cast_ofNat, ← zpow_of_neg 10 negative]
  case isFalse nonnegative =>
    have shifted : coefficient * tenTo exponent.natAbs ≠ 0 :=
      Nat.mul_ne_zero someDigits (Nat.pow_pos (by decide)).ne'
    refine Covers.nearest_eq finite shifted one_ne_zero ?_
    rwa [tenTo_eq, Nat.cast_one, div_one, Nat.cast_mul, Nat.cast_pow, Nat.cast_ofNat,
      ← zpow_of_nonneg 10 (not_lt.mp nonnegative)]

end Decimal

/-! ## Reading digits around a point -/

/-- A text of digits. -/
def Digits (text : List Char) : Prop :=
  ∀ digit ∈ text, isDigit digit = true

section Digits

variable {whole fraction : List Char}

theorem digits_repr (number : Nat) : Digits number.repr.toList := by
  rw [Nat.toList_repr]
  exact fun _ member => isDigit_of_mem_toDigits member

theorem Digits.append (wholeDigits : Digits whole) (fractionDigits : Digits fraction) :
    Digits (whole ++ fraction) := by
  intro digit member
  rcases List.mem_append.mp member with front | back
  · exact wholeDigits digit front
  · exact fractionDigits digit back

theorem digits_zeros (count : Nat) : Digits (zeros count) := by
  intro digit member
  rw [zeros] at member
  rw [List.eq_of_mem_replicate member]
  rfl

theorem digitsFrom_zeros (total count : Nat) :
    digitsFrom total (zeros count) = total * 10 ^ count := by
  induction count generalizing total with
  | zero => exact (Nat.mul_one total).symm
  | succ count inductionHypothesis =>
      calc
        digitsFrom total (zeros (count + 1)) = digitsFrom (total * 10) (zeros count) := rfl
        _ = total * 10 * 10 ^ count := inductionHypothesis _
        _ = total * 10 ^ (count + 1) := by rw [Nat.pow_succ', Nat.mul_assoc]

theorem digitsValue_append_zeros (digits : List Char) (count : Nat) :
    digitsValue (digits ++ zeros count) = digitsValue digits * 10 ^ count := by
  rw [digitsValue, digitsFrom_append, digitsFrom_zeros, digitsValue]

theorem digitsValue_zeros_append (count : Nat) (digits : List Char) :
    digitsValue (zeros count ++ digits) = digitsValue digits := by
  rw [digitsValue, digitsFrom_append, digitsFrom_zeros, Nat.zero_mul, digitsValue]

theorem takeWhile_digits (digits : Digits whole) (rest : List Char)
    (stops : ∀ next ∈ rest.head?, isDigit next = false) :
    (whole ++ rest).takeWhile isDigit = whole ∧ (whole ++ rest).dropWhile isDigit = rest := by
  rw [List.takeWhile_append_of_pos digits, List.dropWhile_append_of_pos digits]
  cases rest with
  | nil => simp
  | cons next rest => simp [stops next rfl]

theorem readDecimal?_whole (digits : Digits whole) (nonempty : whole ≠ []) (negative : Bool) :
    readDecimal? negative whole = some (ofDecimal negative (digitsValue whole) 0) := by
  obtain ⟨taken, dropped⟩ := takeWhile_digits digits [] (by simp)
  rw [List.append_nil] at taken dropped
  simp [readDecimal?, taken, dropped, nonempty, readExponent?]

theorem readDecimal?_fraction (wholeDigits : Digits whole) (fractionDigits : Digits fraction)
    (nonempty : whole ≠ []) (negative : Bool) :
    readDecimal? negative (whole ++ '.' :: fraction) =
      some (ofDecimal negative (digitsValue (whole ++ fraction)) (-fraction.length)) := by
  obtain ⟨taken, dropped⟩ := takeWhile_digits wholeDigits ('.' :: fraction) (by simp [isDigit])
  obtain ⟨takenFraction, droppedFraction⟩ := takeWhile_digits fractionDigits [] (by simp)
  rw [List.append_nil] at takenFraction droppedFraction
  simp [readDecimal?, taken, dropped, takenFraction, droppedFraction, nonempty, readExponent?]

end Digits

/-- Digits with or without a point among them, and the value that they write. -/
inductive Written : List Char → ℚ → Prop
  | whole {whole : List Char} {value : ℚ} : Digits whole → whole ≠ [] →
      value = digitsValue whole → Written whole value
  | fraction {whole fraction : List Char} {value : ℚ} : Digits whole → Digits fraction →
      whole ≠ [] → value = digitsValue (whole ++ fraction) * 10 ^ (-fraction.length : Int) →
      Written (whole ++ '.' :: fraction) value

section Written

variable {text : List Char} {value : ℚ}

theorem Written.exists_readDecimal? (written : Written text value) (negative : Bool) :
    ∃ coefficient exponent,
      readDecimal? negative text = some (ofDecimal negative coefficient exponent) ∧
      (coefficient * 10 ^ exponent : ℚ) = value := by
  cases written with
  | whole digits nonempty same =>
      refine ⟨_, _, readDecimal?_whole digits nonempty negative, ?_⟩
      rw [zpow_zero, mul_one, same]
  | fraction wholeDigits fractionDigits nonempty same =>
      refine ⟨_, _, readDecimal?_fraction wholeDigits fractionDigits nonempty negative, ?_⟩
      rw [same]

theorem Written.exists_digit (written : Written text value) :
    ∃ digit rest, text = digit :: rest ∧ isDigit digit = true := by
  cases written with
  | whole digits nonempty same =>
      obtain ⟨digit, rest, rfl⟩ := List.exists_cons_of_ne_nil nonempty
      exact ⟨digit, rest, rfl, digits digit List.mem_cons_self⟩
  | fraction digits _ nonempty same =>
      obtain ⟨digit, rest, rfl⟩ := List.exists_cons_of_ne_nil nonempty
      exact ⟨digit, _, rfl, digits digit List.mem_cons_self⟩

theorem Written.digit_or_point (written : Written text value) {character : Char}
    (member : character ∈ text) : isDigit character = true ∨ character = '.' := by
  cases written with
  | whole digits => exact .inl (digits character member)
  | fraction wholeDigits fractionDigits =>
      rcases List.mem_append.mp member with front | rest
      · exact .inl (wholeDigits character front)
      rcases List.mem_cons.mp rest with point | back
      · exact .inr point
      · exact .inl (fractionDigits character back)

end Written

/-- A decimal is laid out as digits that write its value. -/
theorem written_positional (decimal : Decimal) :
    Written (positional "" decimal).toList decimal.value := by
  have digits := digits_repr decimal.coefficient
  have value := digitsValue_repr decimal.coefficient
  have nonempty : decimal.coefficient.repr.toList ≠ [] := by
    rw [Nat.toList_repr]
    exact Nat.toDigits_ne_nil
  simp only [positional]
  generalize decimal.coefficient.repr.toList = text at *
  rw [Decimal.value, ← value]
  split
  case isTrue large =>
    rw [String.append_empty, String.toList_ofList]
    refine .whole (digits.append (digits_zeros _)) (by simp [nonempty]) ?_
    rw [digitsValue_append_zeros, zpow_of_nonneg 10 large]
    push_cast
    rfl
  case isFalse small =>
    have positive := List.length_pos_of_ne_nil nonempty
    split <;> rw [String.toList_ofList]
    case isTrue pointInside =>
      have before : Digits (text.take (text.length + decimal.exponent).natAbs) :=
        fun digit member => digits digit (List.mem_of_mem_take member)
      have after : Digits (text.drop (text.length + decimal.exponent).natAbs) :=
        fun digit member => digits digit (List.mem_of_mem_drop member)
      refine .fraction before after ?_ ?_
      · rw [Ne, List.take_eq_nil_iff, or_iff_left nonempty]
        omega
      · have length : (-((text.drop (text.length + decimal.exponent).natAbs).length : Int)) =
            decimal.exponent := by
          rw [List.length_drop]
          omega
        rw [List.take_append_drop, length]
    case isFalse pointBefore =>
      have length : (-((zeros (text.length + decimal.exponent).natAbs ++ text).length : Int)) =
          decimal.exponent := by
        rw [List.length_append, zeros, List.length_replicate]
        omega
      rw [List.cons_append, List.cons_append]
      refine .fraction (digits_zeros 1) ((digits_zeros _).append digits) (by simp [zeros]) ?_
      rw [digitsValue_zeros_append, digitsValue_zeros_append, length]

/-! ## Reading a text -/

section Text

variable {number : Binary64}

theorem splitSign_signText {first : Char} (rest : List Char) (letter : first ∉ ['-', '+']) :
    splitSign (number.signText.toList ++ first :: rest) = (number.isNegative, first :: rest) := by
  rw [signText]
  split
  case isTrue negative => rw [negative]; rfl
  case isFalse positive =>
    rw [eq_false_of_ne_true positive]
    change splitSign (first :: rest) = _
    unfold splitSign
    split <;> simp_all

/-- A text that starts with a digit after its sign is read as a decimal. -/
theorem ofText?_signText {digit : Char} (rest : List Char) (digits : isDigit digit = true) :
    ofText? (number.signText.toList ++ digit :: rest) =
      readDecimal? number.isNegative (digit :: rest) := by
  have unsigned : digit ∉ ['-', '+'] := by
    intro sign
    simp only [List.mem_cons, List.not_mem_nil, or_false] at sign
    rcases sign with rfl | rfl <;> contradiction
  have lower : digit.toLower = digit := by
    have last : digit ≤ '9' := by simp_all [isDigit]
    have small : ¬(digit ≥ 'A' ∧ digit ≤ 'Z') := fun letter =>
      absurd (Char.le_trans letter.1 last) (by decide)
    exact dif_neg small
  -- A digit is not the first letter of a name.
  have notName (name : List Char) (letters : ∀ letter ∈ name.head?, isDigit letter = false) :
      ((digit :: rest).map Char.toLower == name) = false := by
    rw [beq_eq_false_iff_ne, List.map_cons, lower]
    rintro rfl
    rw [letters digit rfl] at digits
    contradiction
  have notNaN := notName "nan".toList (by simp [isDigit])
  have notInf := notName "inf".toList (by simp [isDigit])
  have notInfinity := notName "infinity".toList (by simp [isDigit])
  rw [ofText?, splitSign_signText rest unsigned]
  simp only [notNaN, notInf, notInfinity]
  rfl

theorem ofText?_infinity (infinite : number.isInfinite = true) :
    ofText? (number.signText ++ "Infinity").toList = some number := by
  have word : "Infinity".toList = 'I' :: "nfinity".toList := rfl
  rw [String.toList_append, ofText?, word, splitSign_signText _ (by decide)]
  exact congrArg some (infinity_isNegative infinite)

theorem ofText?_zero (nothing : number.isZero = true) :
    ofText? (number.signText ++ "0").toList = some number := by
  have word : "0".toList = '0' :: [] := rfl
  rw [String.toList_append, word, ofText?_signText [] rfl]
  exact congrArg some (zero_isNegative nothing)

/-- The shortest digits of a finite number are read as the number. -/
theorem ofText?_positional (finite : number.exponentField ≠ 2047)
    (something : number.isZero = false) (tie : Tie) :
    ofText? (number.signText ++ positional "" (shortest tie number)).toList = some number := by
  have nonzero := significand_ne_zero something
  have written := written_positional (shortest tie number)
  obtain ⟨digit, rest, text, digits⟩ := written.exists_digit
  obtain ⟨coefficient, exponent, reads, value⟩ := written.exists_readDecimal? number.isNegative
  have covers := covers_shortest nonzero tie
  rw [← value] at covers
  rw [String.toList_append, text, ofText?_signText rest digits, ← text, reads,
    covers.ofDecimal_eq finite nonzero]

/-- The wire text of a number that is not NaN is read as the number. -/
theorem ofText?_wireText (defined : number.isNaN = false) :
    ofText? number.wireText.toList = some number := by
  rw [wireText]
  split
  case isTrue infinite => exact ofText?_infinity infinite
  case isFalse notInfinite =>
    rw [plainText, if_neg (by simp [defined]), if_neg notInfinite]
    split
    case isTrue nothing => exact ofText?_zero nothing
    case isFalse something =>
      have finite : number.exponentField ≠ 2047 := by
        intro full
        simp only [isNaN, isInfinite, full] at defined notInfinite
        simp_all
      exact ofText?_positional finite (eq_false_of_ne_true something) .up

/-- The characters of a wire text are digits, points, minus signs and the letters of a name. -/
theorem of_mem_wireText (defined : number.isNaN = false) {character : Char}
    (member : character ∈ number.wireText.toList) :
    isDigit character = true ∨ character ∈ ".-Infity".toList := by
  have letters : ∀ letter ∈ "Infinity".toList, letter ∈ ".-Infity".toList := by simp
  have minus : ∀ letter ∈ number.signText.toList, letter ∈ ".-Infity".toList := by
    rw [signText]
    split <;> simp
  rw [wireText] at member
  split at member
  case isTrue =>
    rw [String.toList_append] at member
    exact .inr ((List.mem_append.mp member).elim (minus character) (letters character))
  case isFalse notInfinite =>
    rw [plainText, if_neg (by simp [defined]), if_neg notInfinite] at member
    split at member <;> rw [String.toList_append] at member <;>
      rcases List.mem_append.mp member with sign | digits
    case isTrue.inl | isFalse.inl => exact .inr (minus character sign)
    case isTrue.inr =>
      rw [List.mem_singleton.mp digits]
      exact .inl rfl
    case isFalse.inr =>
      refine ((written_positional _).digit_or_point digits).imp_right ?_
      rintro rfl
      decide

end Text

end BankLedger.Binary64
