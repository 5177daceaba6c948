import BankLedger.Text.Octets

/-!
# Base64

Octets written with sixty-four symbols, four for every three octets.  The last group is filled up
with equals signs, and the bits that no octet takes have to be zero.
-/

namespace BankLedger.Text.Base64

/-- The symbol of a number below sixty-four. -/
def symbol (value : Nat) : Char :=
  if value < 26 then Char.ofNat (65 + value)
  else if value < 52 then Char.ofNat (71 + value)
  else if value < 62 then Char.ofNat (value - 4)
  else if value = 62 then '+' else '/'

/-- The number that a symbol stands for. -/
def value? (character : Char) : Option Nat :=
  if 'A' ≤ character ∧ character ≤ 'Z' then some (character.toNat - 65)
  else if 'a' ≤ character ∧ character ≤ 'z' then some (character.toNat - 71)
  else if '0' ≤ character ∧ character ≤ '9' then some (character.toNat + 4)
  else if character = '+' then some 62
  else if character = '/' then some 63
  else none

/-- Octets in base64. -/
def encode : Octets → List Char
  | a :: b :: c :: rest =>
      let number := a.toNat * 65536 + b.toNat * 256 + c.toNat
      symbol (number / 262144) :: symbol (number / 4096 % 64) :: symbol (number / 64 % 64) ::
        symbol (number % 64) :: encode rest
  | [a, b] =>
      let number := a.toNat * 1024 + b.toNat * 4
      [symbol (number / 4096), symbol (number / 64 % 64), symbol (number % 64), '=']
  | [a] => [symbol (a.toNat / 4), symbol (a.toNat % 4 * 16), '=', '=']
  | [] => []

/-- Why a text is not base64.  Offsets count characters from 0. -/
inductive Failure
  | symbol (character : Char) (offset : Nat)
  | length (count : Nat)
  | lastSymbol (character : Char) (offset : Nat)
  | padding
deriving DecidableEq

/-- The wording of a failure. -/
def Failure.message : Failure → String
  | .symbol character offset => s!"Invalid symbol {character.toNat}, offset {offset}."
  | .length count => s!"Invalid input length: {count}"
  | .lastSymbol character offset => s!"Invalid last symbol {character.toNat}, offset {offset}."
  | .padding => "Invalid padding"

/-- The number that a symbol at an offset stands for. -/
def valueAt (offset : Nat) (character : Char) : Except Failure Nat :=
  match value? character with
  | some value => .ok value
  | none => .error (.symbol character offset)

/-- The numbers that symbols from an offset on stand for. -/
def valuesFrom (offset : Nat) : List Char → Except Failure (List Nat)
  | [] => .ok []
  | character :: rest => do
      let value ← valueAt offset character
      let values ← valuesFrom (offset + 1) rest
      return value :: values

/-- The number that some numbers below sixty-four write, most significant first. -/
def joined (values : List Nat) : Nat :=
  values.foldl (fun total value => total * 64 + value) 0

/-- The octets of a group of two to four symbols, which takes whole octets and leaves the other
bits. -/
def groupOctets : List Nat → Octets
  | [a, b] => [UInt8.ofNat (joined [a, b] / 16)]
  | [a, b, c] => [UInt8.ofNat (joined [a, b, c] / 1024), UInt8.ofNat (joined [a, b, c] / 4)]
  | values =>
      [UInt8.ofNat (joined values / 65536), UInt8.ofNat (joined values / 256),
        UInt8.ofNat (joined values)]

/-- The bits that the octets of a group do not take. -/
def spareBits (values : List Nat) : Nat :=
  match values.length with
  | 2 => joined values % 16
  | 3 => joined values % 4
  | _ => 0

/-- The octets of the last group.  Its equals signs come after at least two symbols, and nothing
comes after them. -/
def decodeLast (offset : Nat) (group : List Char) : Except Failure Octets := do
  let symbols := group.takeWhile (· != '=')
  let signs := group.dropWhile (· != '=')
  let values ← valuesFrom offset symbols
  if !signs.isEmpty && (values.length < 2 || signs.any (· != '=')) then
    .error (.symbol '=' (offset + values.length))
  else if group.isEmpty then .ok []
  else if values.length < 2 then .error (.length (offset + values.length))
  else if group.length ≠ 4 then .error .padding
  else if spareBits values ≠ 0 then
    .error (.lastSymbol (symbols.getLast?.getD '=') (offset + values.length - 1))
  else .ok (groupOctets values)

/-- The octets that symbols from an offset on write.  A group that is not the last has four
symbols. -/
def decodeFrom (offset : Nat) : List Char → Except Failure Octets
  | a :: b :: c :: d :: e :: rest => do
      let values ← valuesFrom offset [a, b, c, d]
      let octets ← decodeFrom (offset + 4) (e :: rest)
      return groupOctets values ++ octets
  | group => decodeLast offset group

/-- The octets that a text writes in base64. -/
def decode (text : List Char) : Except Failure Octets :=
  decodeFrom 0 text

end BankLedger.Text.Base64
