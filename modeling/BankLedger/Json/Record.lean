import BankLedger.Json.Read

/-!
# Reading records

A record is written as an object, with its members in any order and others among them, or as an
array with its fields in order.  A layout lists the fields, each with a reader that puts the value
into a draft of the record.  Mandatory fields have to be there; no field may be repeated.
-/

namespace BankLedger.Json

/-- A field of a record that is read into a draft. -/
structure Slot (Draft : Type) where
  name : String
  mandatory : Bool
  isFilled : Draft → Bool
  fill : Nat → Draft → Reader Draft

/-- The fields of a record, in order, and the draft that reading starts with. -/
structure Layout (Draft : Type) where
  name : String
  blank : Draft
  slots : List (Slot Draft)

namespace Layout

variable {Draft : Type}

/-- Reads the next member into the draft, or skips it if it is no field of the record. -/
def readMember (layout : Layout Draft) (depth : Nat) (draft : Draft) : Reader Draft := do
  let name ← takeName
  match layout.slots.find? fun slot => slot.name == name with
  | some slot =>
      if slot.isFilled draft then stopPending (.duplicateField name)
      else do
        takeColon
        slot.fill depth draft
  | none => do
      takeColon
      skipValue
      return draft

/-- Reads the members of an object, at most `steps` of them. -/
def readMembers (layout : Layout Draft) (depth : Nat) : Nat → Bool → Draft → Reader Draft
  | 0, _, draft => return draft
  | steps + 1, first, draft => do
      if ← nextMember first then do
        let filled ← layout.readMember depth draft
        readMembers layout depth steps false filled
      else return draft

/-- Checks that the mandatory fields are there, in order. -/
def requireFields (draft : Draft) : List (Slot Draft) → Reader Unit
  | [] => pure ()
  | slot :: rest =>
      if slot.mandatory && !slot.isFilled draft then stopPending (.missingField slot.name)
      else requireFields draft rest

/-- Reads the members of an object and checks that the mandatory ones are there. -/
def readObject (layout : Layout Draft) (depth : Nat) : Reader Draft := do
  let draft ← layout.readMembers depth ((← get).length + 1) true layout.blank
  requireFields draft layout.slots
  return draft

/-- Reads the elements of an array into the given slots; missing ones have to be optional. -/
def readPositions (layout : Layout Draft) (depth : Nat) :
    List (Slot Draft) → Bool → Draft → Reader Draft
  | [], _, draft => return draft
  | slot :: rest, first, draft => do
      if ← nextElement first then do
        let filled ← slot.fill depth draft
        readPositions layout depth rest false filled
      else if slot.mandatory then
        stopPending (.wrongLength (layout.slots.length - (rest.length + 1)) layout.name
          layout.slots.length)
      else readPositions layout depth rest first draft

/-- Reads a body and then its end.  A fault that is not tied to a place is tied to the place that
the end, as far as it is there, leads to. -/
def closing {α : Type} (ending : Reader Unit) (body : Reader α) : Reader α := fun rest =>
  match body rest with
  | .ok (value, after) =>
      match ending after with
      | .ok (_, last) => .ok (value, last)
      | .error fault => .error fault
  | .error fault =>
      match ending fault.stop.rest with
      | .ok (_, last) => .error (fault.settle last)
      | .error reached => .error (fault.settle reached.stop.rest)

/-- Reads a record. -/
def read (layout : Layout Draft) (depth : Nat) : Reader Draft := do
  match ← peekToken with
  | none => stopHere .endInValue
  | some '[' =>
      if depth ≤ 1 then stopAtNext .nestedTooDeep
      else do
        advance
        closing endArray (layout.readPositions (depth - 1) layout.slots true layout.blank)
  | some '\x7b' =>
      if depth ≤ 1 then stopAtNext .nestedTooDeep
      else do
        advance
        closing endObject (layout.readObject (depth - 1))
  | some _ => stopWrongType s!"struct {layout.name}"

end Layout

end BankLedger.Json
