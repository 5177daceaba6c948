/-!
# Reserved memory

A program may reserve the memory of a buffer before it fills it.  A buffer that would be larger than
any can be is not refused with an error that a caller could handle: the program panics.  Whether the
machine has the memory for a smaller one is not told here.
-/

namespace BankLedger.Database

/-- Why the program panicked. -/
inductive Panic
  | capacityOverflow
deriving DecidableEq

namespace Panic

/-- The wording of a panic, without the place in the program that is told beside it. -/
def message : Panic → String
  | .capacityOverflow => "capacity overflow"

/-- The exit code of a program that panicked. -/
def exitCode : Nat := 101

end Panic

/-- The octets of the largest buffer on a machine with addresses of 64 bits. -/
def largestBuffer : Nat := 9223372036854775807

/-- Reserves the memory for a number of elements of some size, which may be zero. -/
def reserve (elementSize capacity : Nat) : Except Panic Unit :=
  if largestBuffer < capacity * elementSize then .error .capacityOverflow else .ok ()

theorem reserve_of_fits {elementSize capacity : Nat}
    (fits : capacity * elementSize ≤ largestBuffer) : reserve elementSize capacity = .ok () :=
  if_neg (Nat.not_lt.mpr fits)

theorem reserve_of_exceeds {elementSize capacity : Nat}
    (exceeds : largestBuffer < capacity * elementSize) :
    reserve elementSize capacity = .error .capacityOverflow :=
  if_pos exceeds

end BankLedger.Database
