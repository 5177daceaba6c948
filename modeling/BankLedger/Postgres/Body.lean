import BankLedger.Postgres.Frame
import BankLedger.Postgres.QueryResult

/-!
# Bodies of frames

The body of a frame is a fixed sequence of parts: whole numbers in network order, texts that end
with a zero octet, and counted cells.  Reading takes the parts from the front and requires that
nothing is left over.
-/

namespace BankLedger.Postgres

/-- What had something left over. -/
inductive Surplus
  | body
  | reportFields
  | row
  | description
  | mechanisms
deriving DecidableEq

/-- Why a frame cannot be read. -/
inductive Malformed
  | impossibleLength
  | unknownTag (tag : UInt8)
  | unknownAuthentication (request : Int)
  | tooShort
  | unterminated
  | surplus (place : Surplus)
  | illFormedText (fault : Octets.TextFault)
deriving DecidableEq

/-- The wording for something left over. -/
def Surplus.message : Surplus → String
  | .body => "expected buffer to be empty"
  | .reportFields => "error fields is not drained"
  | .row => "datarowrange is not empty"
  | .description => "field is not drained"
  | .mechanisms => "expected to be at end of iterator for sasl"

/-- The wording of a failure. -/
def Malformed.message : Malformed → String
  | .impossibleLength => "invalid message length: parsing u32"
  | .unknownTag tag => s!"unknown message tag \x60{tag.toNat}\x60"
  | .unknownAuthentication request => s!"unknown authentication tag \x60{request}\x60"
  | .tooShort => "failed to fill whole buffer"
  | .unterminated => "unexpected EOF"
  | .surplus place => s!"invalid message length: {place.message}"
  | .illFormedText fault => fault.message

/-- Reads a part from the front of a body. -/
abbrev BodyReader := StateT Octets (Except Malformed)

namespace BodyReader

/-- The next octets, as many as given. -/
def take (count : Nat) (shortage : Malformed) : BodyReader Octets := fun body =>
  if body.length < count then .error shortage else .ok (body.take count, body.drop count)

/-- A whole number of as many octets as given. -/
def natural (size : Nat) : BodyReader Nat := do
  return (← take size .tooShort).toNat

/-- A whole number of four octets, the upper half of which is negative. -/
def integer : BodyReader Int := do
  let value ← natural 4
  return if value < 0x80000000 then value else (value : Int) - 0x100000000

/-- The octets before the first zero octet and those after it. -/
def splitAtZero : Octets → Option (Octets × Octets)
  | [] => none
  | octet :: rest =>
      if octet = 0 then some ([], rest)
      else (splitAtZero rest).map fun (before, after) => (octet :: before, after)

theorem length_of_splitAtZero {octets before after : Octets}
    (split : splitAtZero octets = some (before, after)) : after.length < octets.length := by
  induction octets generalizing before with
  | nil => simp [splitAtZero] at split
  | cons octet rest ih =>
      simp only [splitAtZero] at split
      split at split
      · simp only [Option.some.injEq, Prod.mk.injEq] at split
        simp [← split.2]
      · simp only [Option.map_eq_some_iff, Prod.mk.injEq, Prod.exists] at split
        obtain ⟨inner, _, found, _, rfl⟩ := split
        simpa using Nat.lt_succ_of_lt (ih found)

/-- A text up to its zero octet. -/
def terminated : BodyReader Octets := fun body =>
  match splitAtZero body with
  | some (text, rest) => .ok (text, rest)
  | none => .error .unterminated

/-- All that is left. -/
def remaining : BodyReader Octets :=
  modifyGet fun body => (body, [])

/-- Requires that nothing is left. -/
def finished (place : Surplus) : BodyReader Unit := fun body =>
  if body.isEmpty then .ok ((), []) else .error (.surplus place)

/-- As many parts as given, one after the other, and nothing else. -/
def counted {Part : Type} (part : BodyReader Part) (place : Surplus) :
    Nat → BodyReader (List Part)
  | 0 => do
      finished place
      return []
  | count + 1 => do
      let first ← part
      let others ← counted part place count
      return first :: others

/-- A cell of a row; a negative length is a null. -/
def cell : BodyReader RawCell := do
  let length ← integer
  if length < 0 then return none
  return some (← take length.toNat .unterminated)

/-- A column of a description.  Of its parts only the name and the type are kept. -/
def column : BodyReader Field := do
  match (← terminated).readText with
  | .error fault => throw (.illFormedText fault)
  | .ok name =>
      let _ ← natural 4
      let _ ← natural 2
      let typeId ← natural 4
      let _ ← natural 2
      let _ ← natural 4
      let _ ← natural 2
      return ⟨name, typeId⟩

end BodyReader

/-- The tagged fields of a report, which end with a zero octet. -/
def reportFields : Octets → Except Malformed (List (UInt8 × Octets))
  | [] => .error .tooShort
  | tag :: rest =>
      if tag = 0 then if rest.isEmpty then .ok [] else .error (.surplus .reportFields)
      else
        match found : BodyReader.splitAtZero rest with
        | none => .error .unterminated
        | some (value, rest') => do
            have := BodyReader.length_of_splitAtZero found
            let others ← reportFields rest'
            return (tag, value) :: others
termination_by body => body.length

/-- The names of the mechanisms that a server offers, which end with an empty one. -/
def mechanismNames (body : Octets) : Except Malformed (List String) :=
  match found : BodyReader.splitAtZero body with
  | none => .error .unterminated
  | some ([], rest) => if rest.isEmpty then .ok [] else .error (.surplus .mechanisms)
  | some (name, rest) =>
      match name.readText with
      | .error fault => .error (.illFormedText fault)
      | .ok text => do
          have := BodyReader.length_of_splitAtZero found
          let others ← mechanismNames rest
          return text :: others
termination_by body.length

end BankLedger.Postgres
