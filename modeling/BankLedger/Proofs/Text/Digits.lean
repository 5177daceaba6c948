import BankLedger.Text.Digits

/-!
# Reading numbers back

A number within the range of a reader is read back from its decimal digits.  The limit is checked at
every digit, so the argument needs that the number read so far only grows.  For the same reason a
text is read exactly if it has the right form and the number it writes is within the limit.
-/

namespace BankLedger.Text

theorem isDigit_of_mem_toDigits {number : Nat} {digit : Char}
    (member : digit ∈ Nat.toDigits 10 number) : isDigit digit = true := by
  have decimal := Nat.isDigit_of_mem_toDigits (by decide) (by decide) member
  simpa [isDigit, Char.isDigit, Char.le_def] using decimal

theorem digitsFrom_toDigits (number : Nat) : digitsFrom 0 (Nat.toDigits 10 number) = number := by
  have value : Nat.ofDigitChars 10 (Nat.toDigits 10 number) 0 = number :=
    Nat.ofDigitChars_ten_toDigits
  rw [Nat.ofDigitChars_eq_foldl] at value
  simp only [Nat.mul_comm 10] at value
  exact value

theorem digitsValue_repr (number : Nat) : digitsValue number.repr.toList = number := by
  rw [digitsValue, Nat.toList_repr, digitsFrom_toDigits]

theorem digitsFrom_append (total : Nat) (digits others : List Char) :
    digitsFrom total (digits ++ others) = digitsFrom (digitsFrom total digits) others :=
  List.foldl_append

theorem le_digitsFrom (total : Nat) (digits : List Char) : total ≤ digitsFrom total digits := by
  induction digits generalizing total with
  | nil => exact Nat.le_refl total
  | cons digit digits inductionHypothesis =>
      calc
        total ≤ total * 10 + digitValue digit := by omega
        _ ≤ digitsFrom (total * 10 + digitValue digit) digits := inductionHypothesis _

/-- Digits of a number that fits are read as that number. -/
theorem readUpTo_eq_ok {limit total : Nat} {digits : List Char}
    (all : ∀ digit ∈ digits, isDigit digit = true) (fits : digitsFrom total digits ≤ limit) :
    readUpTo limit total digits = .ok (digitsFrom total digits) := by
  induction digits generalizing total with
  | nil => rfl
  | cons digit digits inductionHypothesis =>
      have first : isDigit digit = true := all digit (List.mem_cons_self ..)
      have soFar : total * 10 + digitValue digit ≤ limit :=
        Nat.le_trans (le_digitsFrom _ digits) fits
      simp only [readUpTo, first, Bool.not_true, Bool.false_eq_true, if_false,
        if_neg (Nat.not_lt.mpr soFar)]
      exact inductionHypothesis (fun other member => all other (List.mem_cons_of_mem _ member)) fits

theorem readDigits_repr {limit number : Nat} (fits : number ≤ limit) :
    readDigits limit number.repr.toList = .ok number := by
  have value := digitsFrom_toDigits number
  rw [readDigits, Nat.toList_repr, if_neg (by simp [Nat.toDigits_ne_nil]), readUpTo_eq_ok, value]
  · intro digit member
    exact isDigit_of_mem_toDigits member
  · rw [value]
    exact fits

/-- A number without a sign starts with a digit. -/
theorem exists_digit_repr (number : Nat) :
    ∃ digit rest, number.repr.toList = digit :: rest ∧ isDigit digit = true := by
  rw [Nat.toList_repr]
  cases digits : Nat.toDigits 10 number with
  | nil => exact absurd digits Nat.toDigits_ne_nil
  | cons digit rest =>
      refine ⟨digit, rest, rfl, ?_⟩
      have member : digit ∈ Nat.toDigits 10 number := by
        rw [digits]
        exact List.mem_cons_self ..
      exact isDigit_of_mem_toDigits member

/-- The digits of a number start with a zero only if it is zero. -/
theorem head?_toDigits_ne_zero {number : Nat} (positive : 0 < number) :
    (Nat.toDigits 10 number).head? ≠ some '0' := by
  induction number using Nat.strongRecOn with
  | ind number inductionHypothesis =>
      by_cases small : number < 10
      · rw [Nat.toDigits_of_lt_base small]
        simpa using Nat.ne_of_gt positive
      · have others := inductionHypothesis (number / 10) (by omega) (by omega)
        rw [List.head?_eq_some_head Nat.toDigits_ne_nil] at others
        rw [Nat.toDigits_of_base_le (by decide) (Nat.not_lt.mp small), List.head?_append,
          List.head?_eq_some_head Nat.toDigits_ne_nil, Option.some_or]
        exact others

theorem readNatural_repr {limit number : Nat} (fits : number ≤ limit) :
    readNatural limit number.repr.toList = .ok number := by
  obtain ⟨digit, rest, digits, isDigit⟩ := exists_digit_repr number
  have unsigned : dropPlus number.repr.toList = number.repr.toList := by
    rw [digits]
    unfold dropPlus
    split
    · next plus =>
        rw [(List.cons.inj plus).1] at isDigit
        contradiction
    · rfl
  rw [readNatural, unsigned, readDigits_repr fits, digits]
  rfl

theorem readInteger_repr {least greatest : Nat} {number : Int} (lower : -least ≤ number)
    (upper : number ≤ greatest) : readInteger least greatest number.repr.toList = .ok number := by
  rw [Int.repr_eq_if]
  split
  case isTrue nonnegative =>
    obtain ⟨digit, rest, digits, isDigit⟩ := exists_digit_repr number.toNat
    have fits : number.toNat ≤ greatest := by omega
    have value := readNatural_repr fits
    rw [digits] at value ⊢
    unfold readInteger
    split
    · next minus =>
        rw [(List.cons.inj minus).1] at isDigit
        contradiction
    · rw [value]
      simp only [Except.map, Int.ofNat_eq_natCast, Int.toNat_of_nonneg nonnegative]
  case isFalse negative =>
    have fits : (-number).toNat ≤ least := by omega
    have value : -((-number).toNat : Int) = number := by omega
    have signed : ("-" ++ (-number).toNat.repr).toList = '-' :: (-number).toNat.repr.toList :=
      String.toList_append ..
    simp only [signed, readInteger, readDigits_repr fits, value]

/-- Every sixty-four bit integer is read back from its digits. -/
theorem readInt64_repr (number : Int64) : readInt64 number.toInt.repr.toList = .ok number := by
  have lower := number.le_toInt
  have upper := number.toInt_lt
  rw [readInt64, readInteger_repr (by omega) (by omega)]
  simp only [Except.map, Int64.ofInt_toInt]

/-! ## What is read as a number -/

/-- Characters are read as a number within the limit exactly if they are digits that write it. -/
theorem readUpTo_eq_ok_iff {limit total number : Nat} {digits : List Char} (fits : total ≤ limit) :
    readUpTo limit total digits = .ok number ↔
      (∀ digit ∈ digits, isDigit digit = true) ∧ digitsFrom total digits = number ∧
        number ≤ limit := by
  constructor
  · intro reads
    induction digits generalizing total with
    | nil =>
        cases reads
        exact ⟨List.forall_mem_nil _, rfl, fits⟩
    | cons digit digits inductionHypothesis =>
        rw [readUpTo] at reads
        split at reads
        next => cases reads
        next first =>
          split at reads
          next => cases reads
          next within =>
            obtain ⟨others, value, small⟩ := inductionHypothesis (Nat.not_lt.mp within) reads
            exact ⟨List.forall_mem_cons.mpr ⟨by simpa using first, others⟩, value, small⟩
  · rintro ⟨all, rfl, small⟩
    exact readUpTo_eq_ok all small

theorem readDigits_eq_ok_iff {limit number : Nat} {digits : List Char} :
    readDigits limit digits = .ok number ↔
      digits ≠ [] ∧ (∀ digit ∈ digits, isDigit digit = true) ∧ digitsValue digits = number ∧
        number ≤ limit := by
  rw [readDigits]
  split
  next empty =>
    constructor
    · intro reads
      cases reads
    · rintro ⟨some, _⟩
      exact absurd (List.isEmpty_iff.mp empty) some
  next some =>
    rw [readUpTo_eq_ok_iff (Nat.zero_le limit)]
    constructor
    · intro written
      exact ⟨fun empty => some (List.isEmpty_iff.mpr empty), written⟩
    · exact And.right

theorem dropPlus_of_digits {digits : List Char}
    (all : ∀ digit ∈ digits, isDigit digit = true) : dropPlus digits = digits := by
  unfold dropPlus
  split
  · have plus := all '+' List.mem_cons_self
    contradiction
  · rfl

/-- A text is read as a number within the limit exactly if it consists of at least one digit,
perhaps after a plus sign, and the digits write that number. -/
theorem readNatural_eq_ok_iff {limit number : Nat} {text : List Char} :
    readNatural limit text = .ok number ↔
      ∃ digits, (text = digits ∨ text = '+' :: digits) ∧ digits ≠ [] ∧
        (∀ digit ∈ digits, isDigit digit = true) ∧ digitsValue digits = number ∧
        number ≤ limit := by
  constructor
  · intro reads
    rw [readNatural] at reads
    split at reads
    next => cases reads
    next =>
      refine ⟨dropPlus text, ?_, readDigits_eq_ok_iff.mp reads⟩
      unfold dropPlus
      split
      · exact .inr rfl
      · exact .inl rfl
  · rintro ⟨digits, spelled, some, written⟩
    have unsigned : dropPlus text = digits := by
      rcases spelled with rfl | rfl
      · exact dropPlus_of_digits written.1
      · rfl
    have nonempty : ¬text.isEmpty = true := by
      rcases spelled with rfl | rfl
      · simpa using some
      · simp
    rw [readNatural, if_neg nonempty, unsigned]
    exact readDigits_eq_ok_iff.mpr ⟨some, written⟩

end BankLedger.Text
