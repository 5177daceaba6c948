import BankLedger.Json.Record

/-!
# Movements

A movement is a credit or a debit of a positive amount with a short description.  It is made only by
checks, so a movement that exists is valid: `make` checks amount and description, and `ofRequest`
reads the JSON body of a request.
-/

namespace BankLedger.Ledger

open BankLedger.Text

/-- Whether money comes in or goes out. -/
inductive Direction
  | credit
  | debit
deriving DecidableEq

/-- The letter that stands for a direction. -/
def Direction.letter : Direction → String
  | .credit => "c"
  | .debit => "d"

/-- The direction that a letter stands for. -/
def Direction.ofLetter? (letter : String) : Option Direction :=
  if letter == "c" then some .credit else if letter == "d" then some .debit else none

/-- The direction of a stored movement. -/
def Direction.ofCreditFlag (isCredit : Bool) : Direction :=
  if isCredit then .credit else .debit

/-- Whether a direction is a credit. -/
def Direction.isCredit : Direction → Bool
  | .credit => true
  | .debit => false

/-- The greatest number of characters of a description. -/
def longestDescription : Nat := 10

/-- Why a request is no movement. -/
inductive InvalidMovement
  | malformed (reason : String)
  | nonPositiveAmount (amount : Int64)
  | unknownDirection (letter : String)
  | descriptionLength (length : Nat)
deriving DecidableEq

/-- The wording of an invalid request. -/
def InvalidMovement.message : InvalidMovement → String
  | .malformed reason => s!"malformed request: {reason}"
  | .nonPositiveAmount amount => s!"the amount must be a positive integer, got {amount.toInt}"
  | .unknownDirection letter =>
      s!"the direction must be \"c\" or \"d\", got {quoted letter}"
  | .descriptionLength length =>
      s!"the description must be 1 to {longestDescription} characters long, got {length}"

/-- A credit or debit of a positive amount, with a description of one to ten characters. -/
structure Movement where
  amount : Int64
  direction : Direction
  description : String
  amount_pos : 0 < amount.toInt
  description_fits : 1 ≤ description.length ∧ description.length ≤ longestDescription
deriving DecidableEq

namespace Movement

/-- A movement, if the amount is positive and the description has a valid length. -/
def make (amount : Int64) (direction : Direction) (description : String) :
    Except InvalidMovement Movement :=
  if positive : 0 < amount.toInt then
    if fits : 1 ≤ description.length ∧ description.length ≤ longestDescription then
      .ok ⟨amount, direction, description, positive, fits⟩
    else .error (.descriptionLength description.length)
  else .error (.nonPositiveAmount amount)

@[simp] theorem make_movement (movement : Movement) :
    make movement.amount movement.direction movement.description = .ok movement := by
  rw [make, dif_pos movement.amount_pos, dif_pos movement.description_fits]

/-- The fields of a request that have been read. -/
structure Draft where
  amount : Option Int64
  direction : Option String
  description : Option (Option String)

/-- The fields of a request.  A missing description is no description. -/
def layout : Json.Layout Draft where
  name := "TransactionRequest"
  blank := ⟨none, none, none⟩
  slots := [
    { name := "amount"
      mandatory := true
      isFilled := fun draft => draft.amount.isSome
      fill := fun _ draft => do return { draft with amount := some (← Json.readInt64) } },
    { name := "direction"
      mandatory := true
      isFilled := fun draft => draft.direction.isSome
      fill := fun _ draft => do return { draft with direction := some (← Json.readString) } },
    { name := "description"
      mandatory := false
      isFilled := fun draft => draft.description.isSome
      fill := fun _ draft => do
        return { draft with description := some (← Json.readOptional Json.readString) } }]

/-- The movement that a request describes.  The direction is checked before the amount, and the
amount before the description. -/
def ofDraft (draft : Draft) : Except InvalidMovement Movement :=
  let letter := draft.direction.getD ""
  match Direction.ofLetter? letter with
  | none => .error (.unknownDirection letter)
  | some direction =>
      make (draft.amount.getD 0) direction ((draft.description.getD none).getD "")

/-- Reads the JSON body of a request. -/
def ofRequest (body : String) : Except InvalidMovement Movement :=
  match Json.readWhole (layout.read Json.fullDepth) body.toList with
  | .ok draft => ofDraft draft
  | .error fault => .error (.malformed (fault.message body.toList))

end Movement

end BankLedger.Ledger
