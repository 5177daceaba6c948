/-!
# Octets and text

Cells, parameters and frames travel as sequences of octets.  This module writes octets as
hexadecimal digits, writes whole numbers in network order, and reads octets as UTF-8, once strictly
and once with a replacement character in the place of every ill-formed part.
-/

namespace BankLedger

/-- A finite sequence of octets. -/
abbrev Octets := List UInt8

/-- The number of octets that encode some characters. -/
def Text.octetCount : List Char → Nat
  | [] => 0
  | character :: rest => character.utf8Size + octetCount rest

namespace Octets

/-- The UTF-8 encoding of a text. -/
def ofText (text : String) : Octets :=
  text.toByteArray.data.toList

/-- The text that the octets encode, if they are well-formed UTF-8. -/
def toText? (octets : Octets) : Option String :=
  String.fromUTF8? ⟨octets.toArray⟩

@[simp] theorem toText?_ofText (text : String) : (ofText text).toText? = some text := by
  have same : (⟨(ofText text).toArray⟩ : ByteArray) = text.toByteArray := by simp [ofText]
  rw [toText?, same, String.fromUTF8?, dif_pos text.isValidUTF8]
  rfl

/-! ## Hexadecimal digits -/

/-- The lowercase hexadecimal digit of a number below sixteen. -/
def hexDigit (value : Nat) : Char :=
  if value < 10 then Char.ofNat (48 + value) else Char.ofNat (87 + value)

/-- The value of a hexadecimal digit in either case. -/
def hexValue? (digit : Char) : Option Nat :=
  if '0' ≤ digit ∧ digit ≤ '9' then some (digit.toNat - 48)
  else if 'a' ≤ digit ∧ digit ≤ 'f' then some (digit.toNat - 87)
  else if 'A' ≤ digit ∧ digit ≤ 'F' then some (digit.toNat - 55)
  else none

/-- Two lowercase digits for each octet. -/
def toHex (octets : Octets) : String :=
  String.ofList <| octets.flatMap fun octet =>
    [hexDigit (octet.toNat / 16), hexDigit (octet.toNat % 16)]

/-- The octets written as pairs of hexadecimal digits. -/
def ofHexDigits? : List Char → Option Octets
  | [] => some []
  | [_] => none
  | high :: low :: rest => do
      let upper ← hexValue? high
      let lower ← hexValue? low
      let octets ← ofHexDigits? rest
      return UInt8.ofNat (16 * upper + lower) :: octets

/-- The octets written as pairs of hexadecimal digits. -/
def ofHex? (text : String) : Option Octets :=
  ofHexDigits? text.toList

/-! ## Numbers in network order -/

/-- The low sixteen bits of a number, most significant octet first. -/
def ofNat16 (value : Nat) : Octets :=
  [UInt8.ofNat (value / 256), UInt8.ofNat value]

/-- The low thirty-two bits of a number, most significant octet first. -/
def ofNat32 (value : Nat) : Octets :=
  [UInt8.ofNat (value / 16777216), UInt8.ofNat (value / 65536), UInt8.ofNat (value / 256),
    UInt8.ofNat value]

/-- The number that the octets write, most significant first. -/
def toNat (octets : Octets) : Nat :=
  octets.foldl (fun total octet => total * 256 + octet.toNat) 0

/-! ## Lossy reading

An ill-formed part is the longest start of a character that is there, or else a single octet; each
becomes one replacement character.
-/

/-- The values allowed for the second octet of a character that starts with the given octet. -/
def secondRange (lead : Nat) : Nat × Nat :=
  if lead == 0xE0 then (0xA0, 0xBF)
  else if lead == 0xED then (0x80, 0x9F)
  else if lead == 0xF0 then (0x90, 0xBF)
  else if lead == 0xF4 then (0x80, 0x8F)
  else (0x80, 0xBF)

/-- The number of octets of a character that starts with the given octet, 0 if none does. -/
def characterSize (lead : Nat) : Nat :=
  if lead < 0x80 then 1
  else if 0xC2 ≤ lead && lead ≤ 0xDF then 2
  else if 0xE0 ≤ lead && lead ≤ 0xEF then 3
  else if 0xF0 ≤ lead && lead ≤ 0xF4 then 4
  else 0

/-- The bits that the first octet adds to the code point of a character of the given size. -/
def leadBits (size lead : Nat) : Nat :=
  match size with
  | 2 => lead % 32
  | 3 => lead % 16
  | 4 => lead % 8
  | _ => lead

/-- Takes up to `count` continuation octets, the first of them from the range `low` to `high`.
Answers the code point so far, how many octets were still wanted, and the rest. -/
def continuation (low high : Nat) : Nat → Nat → Octets → Nat × Nat × Octets
  | 0, code, rest => (code, 0, rest)
  | count + 1, code, [] => (code, count + 1, [])
  | count + 1, code, octet :: rest =>
      if low ≤ octet.toNat && octet.toNat ≤ high then
        continuation 0x80 0xBF count (code * 64 + octet.toNat % 64) rest
      else
        (code, count + 1, octet :: rest)

theorem continuation_length (low high count code : Nat) (octets : Octets) :
    (continuation low high count code octets).2.2.length ≤ octets.length := by
  induction octets generalizing low high count code with
  | nil => cases count <;> simp [continuation]
  | cons octet rest ih =>
      cases count with
      | zero => simp [continuation]
      | succ count =>
          simp only [continuation]
          split
          · exact Nat.le_succ_of_le (ih ..)
          · simp

/-- Reads one character, or the replacement character for one ill-formed part. -/
def lossyStep (lead : UInt8) (rest : Octets) : Char × Octets :=
  let size := characterSize lead.toNat
  if size == 0 then ('\uFFFD', rest)
  else
    let range := secondRange lead.toNat
    let (code, missing, after) :=
      continuation range.1 range.2 (size - 1) (leadBits size lead.toNat) rest
    (if missing == 0 then Char.ofNat code else '\uFFFD', after)

theorem lossyStep_length (lead : UInt8) (rest : Octets) :
    (lossyStep lead rest).2.length ≤ rest.length := by
  simp only [lossyStep]
  split
  · simp
  · exact continuation_length ..

/-- Reads the octets as characters, with replacement characters for the ill-formed parts. -/
def lossyCharacters : Octets → List Char
  | [] => []
  | lead :: rest =>
      have := lossyStep_length lead rest
      (lossyStep lead rest).1 :: lossyCharacters (lossyStep lead rest).2
termination_by octets => octets.length
decreasing_by simp only [List.length_cons]; omega

/-! ## Faults -/

/-- Where octets are not well-formed UTF-8: the offset of the first ill-formed part and its length,
which is missing if the octets end within a character. -/
structure TextFault where
  offset : Nat
  length : Option Nat
deriving DecidableEq

/-- The wording of a fault. -/
def TextFault.message (fault : TextFault) : String :=
  match fault.length with
  | some length => s!"invalid utf-8 sequence of {length} bytes from index {fault.offset}"
  | none => s!"incomplete utf-8 byte sequence from index {fault.offset}"

/-- The length of the ill-formed part that starts with an octet, none within if the octets end
first, and none at all if a character starts here. -/
def faultLength? (lead : UInt8) (rest : Octets) : Option (Option Nat) :=
  let size := characterSize lead.toNat
  if size == 0 then some (some 1)
  else
    let range := secondRange lead.toNat
    let (_, missing, after) :=
      continuation range.1 range.2 (size - 1) (leadBits size lead.toNat) rest
    if missing == 0 then none
    else if after.isEmpty then some none
    else some (some (size - missing))

/-- The first fault of octets that start at an offset. -/
def faultFrom (offset : Nat) : Octets → Option TextFault
  | [] => none
  | lead :: rest =>
      match faultLength? lead rest with
      | some length => some ⟨offset, length⟩
      | none =>
          have := lossyStep_length lead rest
          let after := (lossyStep lead rest).2
          faultFrom (offset + (rest.length + 1 - after.length)) after
termination_by octets => octets.length
decreasing_by simp only [List.length_cons]; omega

/-- The text that the octets encode, or the first fault. -/
def readText (octets : Octets) : Except TextFault String :=
  match octets.toText? with
  | some text => .ok text
  | none => .error ((faultFrom 0 octets).getD ⟨0, none⟩)

/-- The text that the octets encode, with a replacement character for each ill-formed part. -/
def toTextLossy (octets : Octets) : String :=
  String.ofList (lossyCharacters octets)

end Octets

end BankLedger
