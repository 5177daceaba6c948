import BankLedger.Text.Octets

/-!
# Octets of characters

A text is encoded character by character.  An ASCII character is a single octet, its code; any other
character starts with an octet that starts no ASCII character, and goes on with octets that start no
character at all.
-/

namespace BankLedger

namespace Octets

theorem ofText_eq_flatMap (text : String) :
    ofText text = text.toList.flatMap String.utf8EncodeChar := by
  rw [ofText, ← String.utf8Encode_toList, List.utf8Encode, List.toList_data_toByteArray]

/-- The octets of some characters. -/
def ofCharacters (characters : List Char) : Octets :=
  characters.flatMap String.utf8EncodeChar

theorem ofText_ofList (characters : List Char) :
    ofText (String.ofList characters) = ofCharacters characters := by
  rw [ofText_eq_flatMap, String.toList_ofList, ofCharacters]

@[simp] theorem ofCharacters_nil : ofCharacters [] = [] := rfl

theorem ofCharacters_cons (character : Char) (others : List Char) :
    ofCharacters (character :: others) =
      String.utf8EncodeChar character ++ ofCharacters others := rfl

theorem ofCharacters_append (front rest : List Char) :
    ofCharacters (front ++ rest) = ofCharacters front ++ ofCharacters rest :=
  List.flatMap_append

@[simp] theorem toText?_ofCharacters (characters : List Char) :
    (ofCharacters characters).toText? = some (String.ofList characters) := by
  rw [← ofText_ofList, toText?_ofText]

@[simp] theorem length_ofCharacters (characters : List Char) :
    (ofCharacters characters).length = Text.octetCount characters := by
  induction characters with
  | nil => rfl
  | cons character others inductionHypothesis =>
      rw [ofCharacters_cons, List.length_append, String.length_utf8EncodeChar,
        inductionHypothesis, Text.octetCount]

theorem utf8EncodeChar_of_ascii {character : Char} (ascii : character.toNat < 0x80) :
    String.utf8EncodeChar character = [UInt8.ofNat character.toNat] := by
  have small : character.val.toNat ≤ 0x7F := Nat.le_of_lt_succ ascii
  rw [String.utf8EncodeChar, if_pos small]
  rfl

theorem toNat_octet {value : Nat} (small : value < 0x100) : (UInt8.ofNat value).toNat = value := by
  rw [UInt8.toNat_ofNat', Nat.mod_eq_of_lt small]

theorem utf8EncodeChar_of_wide {character : Char} (wide : 0x80 ≤ character.toNat) :
    ∃ lead others, String.utf8EncodeChar character = lead :: others ∧ 0xC0 ≤ lead.toNat ∧
      ∀ octet ∈ others, 0x80 ≤ octet.toNat ∧ octet.toNat < 0xC0 := by
  have large : ¬character.val.toNat ≤ 0x7F := Nat.not_le.mpr wide
  have later (value : Nat) :
      0x80 ≤ (UInt8.ofNat (value % 64 + 0x80)).toNat ∧
        (UInt8.ofNat (value % 64 + 0x80)).toNat < 0xC0 := by
    rw [toNat_octet (by omega)]
    omega
  have first {value base : Nat} (least : 0xC0 ≤ base) (fits : value + base < 0x100) :
      0xC0 ≤ (UInt8.ofNat (value + base)).toNat := by
    rw [toNat_octet fits]
    omega
  simp only [String.utf8EncodeChar, if_neg large]
  split
  case isTrue =>
    refine ⟨_, _, rfl, first (by decide) (by omega), ?_⟩
    rw [List.forall_mem_singleton]
    exact later _
  case isFalse =>
    split
    case isTrue =>
      refine ⟨_, _, rfl, first (by decide) (by omega), ?_⟩
      rw [List.forall_mem_cons, List.forall_mem_singleton]
      exact ⟨later _, later _⟩
    case isFalse =>
      refine ⟨_, _, rfl, first (by decide) (by omega), ?_⟩
      rw [List.forall_mem_cons, List.forall_mem_cons, List.forall_mem_singleton]
      exact ⟨later _, later _, later _⟩

end Octets

end BankLedger
