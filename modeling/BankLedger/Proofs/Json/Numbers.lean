import BankLedger.Proofs.Json.Scanning
import BankLedger.Proofs.Text.Digits

/-!
# Numbers in JSON

An integer is taken back from its decimal digits if it fits into sixty-four bits, with or without a
sign.  Its digits have no zero in front, and what follows a value continues no number.
-/

namespace BankLedger.Json

open BankLedger.Text

/-- What follows a value does not continue a number. -/
theorem Follows.head_ne {rest : List Char} (follows : Follows rest) {next : Char}
    (first : rest.head? = some next) :
    isDigit next = false ∧ next ≠ '.' ∧ next ≠ 'e' ∧ next ≠ 'E' := by
  rcases follows next first with blank | known
  · have known := isGap_iff.mp blank
    simp only [List.mem_cons, List.not_mem_nil, or_false] at known
    rcases known with rfl | rfl | rfl | rfl <;> decide
  · simp only [List.mem_cons, List.not_mem_nil, or_false] at known
    rcases known with rfl | rfl | rfl <;> decide

theorem takeDigits_of_follows {rest : List Char} (follows : Follows rest) (total : Nat) :
    takeDigits total rest = (total, 0, rest) := by
  cases rest with
  | nil => rfl
  | cons next others =>
      have other := (follows.head_ne rfl).1
      simp only [takeDigits, other, Bool.false_and, Bool.false_eq_true, if_false]

/-- Digits are taken together if the number they write is one of sixty-four bits. -/
theorem takeDigits_append {digits rest : List Char} {total : Nat} (follows : Follows rest)
    (all : ∀ digit ∈ digits, isDigit digit = true) (fits : digitsFrom total digits ≤ wordLimit) :
    takeDigits total (digits ++ rest) = (digitsFrom total digits, digits.length, rest) := by
  induction digits generalizing total with
  | nil => exact takeDigits_of_follows follows total
  | cons digit digits inductionHypothesis =>
      have first : isDigit digit = true := all digit List.mem_cons_self
      have soFar : total * 10 + digitValue digit ≤ wordLimit :=
        Nat.le_trans (le_digitsFrom _ digits) fits
      have others := inductionHypothesis
        (fun other member => all other (List.mem_cons_of_mem _ member)) fits
      rw [List.cons_append, takeDigits, if_pos (by simp [first, soFar]), others]
      rfl

theorem endNumber_of_follows {rest : List Char} (follows : Follows rest) (negative : Bool)
    (value : Nat) : endNumber negative value rest = .ok (ofInteger negative value, rest) := by
  cases rest with
  | nil => rfl
  | cons next others =>
      obtain ⟨noDigit, noPoint, noMark, noOther⟩ := follows.head_ne rfl
      have alone : (next :: others).span isDigit = ([], next :: others) := by
        change (match isDigit next with
          | true => List.span.loop isDigit others [next]
          | false => ([], next :: others)) = _
        rw [noDigit]
      have got : (get : Reader (List Char)) (next :: others) =
          .ok (next :: others, next :: others) := rfl
      rw [endNumber, bind_of_taken got, alone]
      have put : (set (next :: others) : Reader PUnit) (next :: others) =
          .ok (⟨⟩, next :: others) := rfl
      dsimp only
      rw [bind_of_taken put, bind_of_taken (peek_cons ..)]
      rw [if_neg (by simpa using noPoint), if_neg (by simpa using ⟨noMark, noOther⟩)]
      rfl

/-- A number is taken from its digits, without a zero in front of them. -/
theorem takeNumber_toDigits {rest : List Char} (follows : Follows rest) (negative : Bool)
    {value : Nat} (fits : value ≤ wordLimit) :
    takeNumber negative (Nat.toDigits 10 value ++ rest) = .ok (ofInteger negative value, rest) := by
  rcases Nat.eq_zero_or_pos value with rfl | positive
  · have last : ((rest.head?).map isDigit).getD false = false := by
      cases rest with
      | nil => rfl
      | cons next others => exact (follows.head_ne rfl).1
    have looked : peek rest = .ok (rest.head?, rest) := rfl
    rw [Nat.toDigits_zero, List.singleton_append, takeNumber, bind_of_taken (peek_cons ..)]
    change (advance >>= fun _ => peek >>= _) _ = _
    rw [bind_of_taken (advance_cons ..), bind_of_taken looked, if_neg (by simp [last])]
    exact endNumber_of_follows follows negative 0
  · have all : ∀ digit ∈ Nat.toDigits 10 value, isDigit digit = true :=
      fun digit member => isDigit_of_mem_toDigits member
    have leading := head?_toDigits_ne_zero positive
    have taken : takeDigits 0 (Nat.toDigits 10 value ++ rest) =
        (value, (Nat.toDigits 10 value).length, rest) := by
      rw [takeDigits_append follows all (by rwa [digitsFrom_toDigits]), digitsFrom_toDigits]
    cases digits : Nat.toDigits 10 value with
    | nil => exact absurd digits Nat.toDigits_ne_nil
    | cons first others =>
        rw [digits] at all leading taken
        have digit := all first List.mem_cons_self
        have got : (get : Reader (List Char)) (first :: (others ++ rest)) =
            .ok (first :: (others ++ rest), first :: (others ++ rest)) := rfl
        rw [List.cons_append] at taken ⊢
        rw [takeNumber, bind_of_taken (peek_cons ..)]
        dsimp only
        rw [if_neg (by simp [digit]), if_neg (by simpa using leading), bind_of_taken got, taken]
        exact endNumber_of_follows follows negative value

/-- An integer starts with a minus sign or a digit. -/
theorem exists_startsNumber_repr (value : Int) :
    ∃ first others, value.repr.toList = first :: others ∧ startsNumber first = true := by
  rw [Int.repr_eq_if]
  split
  case isTrue nonnegative =>
    obtain ⟨digit, others, digits, isDigit⟩ := exists_digit_repr value.toNat
    exact ⟨digit, others, digits, by simp [startsNumber, isDigit]⟩
  case isFalse negative =>
    exact ⟨'-', (-value).toNat.repr.toList, String.toList_append .., rfl⟩

theorem ofInteger_negative {value : Nat} (positive : 0 < value)
    (fits : value ≤ 0x8000000000000000) : ofInteger true value = .integer (-(value : Int)) := by
  have inside : ¬((value == 0 || decide (0x8000000000000000 < value)) = true) := by
    simp only [Bool.or_eq_true, beq_iff_eq, decide_eq_true_eq]
    omega
  rw [ofInteger, if_neg (by simp), if_neg inside]

/-- An integer that fits into sixty-four bits, signed or not, is taken from its digits. -/
theorem takeSignedNumber_repr {rest : List Char} {value : Int} (follows : Follows rest)
    (lower : -0x8000000000000000 ≤ value) (upper : value ≤ wordLimit) :
    takeSignedNumber (value.repr.toList ++ rest) = .ok (.integer value, rest) := by
  rw [Int.repr_eq_if]
  split
  case isTrue nonnegative =>
    obtain ⟨digit, others, digits, isDigit⟩ := exists_digit_repr value.toNat
    have unsigned : ¬((some digit == some '-') = true) := by
      rw [Option.some_beq_some, beq_iff_eq]
      rintro rfl
      contradiction
    have fits : value.toNat ≤ wordLimit := by omega
    have number := takeNumber_toDigits follows false fits
    rw [← Nat.toList_repr, digits, List.cons_append] at number
    rw [digits, List.cons_append, takeSignedNumber, bind_of_taken (peek_cons ..), if_neg unsigned,
      number, ofInteger]
    simp only [Bool.not_false, if_true, Int.toNat_of_nonneg nonnegative]
  case isFalse negative =>
    have signed : ("-" ++ (-value).toNat.repr).toList = '-' :: (-value).toNat.repr.toList :=
      String.toList_append ..
    have fits : (-value).toNat ≤ wordLimit := by
      rw [wordLimit, UInt64.size]
      omega
    have back : -((-value).toNat : Int) = value := by omega
    rw [signed, List.cons_append, takeSignedNumber, bind_of_taken (peek_cons ..),
      if_pos (beq_self_eq_true _), bind_of_taken (advance_cons ..), Nat.toList_repr,
      takeNumber_toDigits follows true fits, ofInteger_negative (by omega) (by omega), back]

theorem isGap_of_startsNumber {first : Char} (number : startsNumber first = true) :
    isGap first = false := by
  rw [Bool.eq_false_iff]
  intro gap
  have known := isGap_iff.mp gap
  simp only [List.mem_cons, List.not_mem_nil, or_false] at known
  rcases known with rfl | rfl | rfl | rfl <;> contradiction

theorem takes_readInteger (type : String) {least greatest value : Int}
    (lower : -0x8000000000000000 ≤ value) (upper : value ≤ wordLimit) (least_le : least ≤ value)
    (le_greatest : value ≤ greatest) :
    Takes (readInteger type least greatest) value.repr.toList value := by
  intro gap rest blank follows
  obtain ⟨first, others, digits, number⟩ := exists_startsNumber_repr value
  have taken := takeSignedNumber_repr follows lower upper
  rw [digits, List.cons_append] at taken ⊢
  rw [readInteger, bind_of_taken (peekToken_gap blank (isGap_of_startsNumber number))]
  dsimp only
  rw [if_pos number, bind_of_taken taken]
  dsimp only
  rw [if_pos (by simp [least_le, le_greatest])]
  rfl

theorem takes_readInt64 (value : Int64) : Takes readInt64 value.toInt.repr.toList value := by
  have lower := value.le_toInt
  have upper := value.toInt_lt
  have least : -0x8000000000000000 ≤ value.toInt := by omega
  have greatest : value.toInt ≤ 0x7fffffffffffffff := by omega
  have word : value.toInt ≤ wordLimit := by
    rw [wordLimit, UInt64.size]
    omega
  have takes := (takes_readInteger "i64" least word least greatest).map Int64.ofInt
  rwa [Int64.ofInt_toInt] at takes

theorem takes_readNatural (type : String) {greatest value : Nat} (fits : value ≤ greatest)
    (word : value ≤ wordLimit) :
    Takes (readNatural type greatest) (value : Int).repr.toList value :=
  (takes_readInteger type (by omega) (by omega) (by omega) (by omega)).map Int.toNat

end BankLedger.Json
