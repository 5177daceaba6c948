import Mathlib.Data.List.Forall2
import BankLedger.Ledger.Movement
import BankLedger.Proofs.Json.Indented
import BankLedger.Proofs.Json.Skipping

/-!
# Requests

The body of a request is an object that states an amount, a direction and a description, in any
order, with any other members among them.  What is read from such a body does not depend on how it
is written: the names and the texts may be spelled in any way, and blanks may stand between any two
tokens.  A movement comes of it exactly if the amount is positive and the description is neither
empty nor too long.
-/

namespace BankLedger.Ledger

open BankLedger.Json

/-! ## Bodies of requests -/

/-- What a member of the body of a request states. -/
inductive Clause
  | amount (value : Int64)
  | direction (value : Direction)
  | description (text : String)
  | other (name : String)
deriving DecidableEq

namespace Clause

/-- The name of a member. -/
def name : Clause → String
  | .amount _ => "amount"
  | .direction _ => "direction"
  | .description _ => "description"
  | .other name => name

/-- The draft of what a member states alone. -/
def draft : Clause → Movement.Draft
  | .amount value => ⟨some value, none, none⟩
  | .direction value => ⟨none, some value.letter, none⟩
  | .description text => ⟨none, none, some (some text)⟩
  | .other _ => ⟨none, none, none⟩

/-- How the value of a member may be written.  A member of another name has any value. -/
inductive ValueText : Clause → List Char → Prop
  | amount (value : Int64) : ValueText (.amount value) value.toInt.repr.toList
  | direction {value : Direction} {spelling : List Char}
      (spelled : Spelled spelling value.letter.toList) :
      ValueText (.direction value) ('"' :: (spelling ++ ['"']))
  | description {text : String} {spelling : List Char} (spelled : Spelled spelling text.toList) :
      ValueText (.description text) ('"' :: (spelling ++ ['"']))
  | other {name : String} {text : List Char}
      (foreign : name ∉ ["amount", "direction", "description"]) (written : Written .value text) :
      ValueText (.other name) text

/-- How a member may be written, from the blanks in front of it to those that follow it. -/
inductive MemberText (clause : Clause) : List Char → Prop
  | member {before spelling left right value after : List Char} (front : Gap before)
      (spelled : Spelled spelling clause.name.toList) (beforeColon : Gap left)
      (afterColon : Gap right) (written : clause.ValueText value) (back : Gap after) :
      MemberText clause
        (before ++ '"' :: (spelling ++ '"' :: (left ++ ':' :: (right ++ (value ++ after)))))

end Clause

/-- How a body with some clauses may be written: an object with a member for each clause, and
blanks around it. -/
inductive BodyText (clauses : List Clause) : List Char → Prop
  | object {before after : List Char} {members : List (List Char)} (front : Gap before)
      (written : List.Forall₂ Clause.MemberText clauses members) (back : Gap after) :
      BodyText clauses
        (before ++ '\x7b' :: (joinWith [','] members ++ '\x7d' :: after))

/-! ## Drafts -/

namespace Direction

theorem ofLetter?_eq_some_iff {letter : String} {direction : Direction} :
    ofLetter? letter = some direction ↔ letter = direction.letter := by
  constructor
  · intro known
    rw [ofLetter?] at known
    split at known
    next credit =>
      cases known
      exact beq_iff_eq.mp credit
    next =>
      split at known
      next debit =>
        cases known
        exact beq_iff_eq.mp debit
      next => cases known
  · rintro rfl
    cases direction <;> rfl

theorem letter_ne_empty (direction : Direction) : direction.letter ≠ "" := by
  cases direction <;> decide

end Direction

namespace Movement

/-- The clauses of a movement. -/
def clauses (movement : Movement) : List Clause :=
  [.amount movement.amount, .direction movement.direction, .description movement.description]

/-- The draft that states a movement. -/
def toDraft (movement : Movement) : Draft :=
  ⟨some movement.amount, some movement.direction.letter, some (some movement.description)⟩

theorem make_eq_ok_iff {amount : Int64} {direction : Direction} {description : String}
    {movement : Movement} :
    make amount direction description = .ok movement ↔
      amount = movement.amount ∧ direction = movement.direction ∧
        description = movement.description := by
  constructor
  · intro made
    rw [make] at made
    split at made
    next =>
      split at made
      next =>
        cases made
        exact ⟨rfl, rfl, rfl⟩
      next => cases made
    next => cases made
  · rintro ⟨rfl, rfl, rfl⟩
    exact make_movement movement

theorem amount_ne_zero (movement : Movement) : movement.amount ≠ 0 := by
  intro zero
  have positive := movement.amount_pos
  rw [zero] at positive
  contradiction

theorem description_ne_empty (movement : Movement) : movement.description ≠ "" := by
  intro empty
  have nonempty := movement.description_fits.1
  rw [empty] at nonempty
  contradiction

/-- A draft makes a movement exactly if it states that movement: what is missing from a draft makes
none. -/
theorem ofDraft_eq_ok_iff {draft : Draft} {movement : Movement} :
    ofDraft draft = .ok movement ↔ draft = movement.toDraft := by
  constructor
  · obtain ⟨amount, letter, description⟩ := draft
    intro made
    rw [ofDraft] at made
    split at made
    next => cases made
    next direction known =>
      obtain ⟨amountIs, rfl, descriptionIs⟩ := make_eq_ok_iff.mp made
      have letterIs := Direction.ofLetter?_eq_some_iff.mp known
      rw [Option.getD_eq_iff] at amountIs letterIs descriptionIs
      obtain rfl : amount = some movement.amount :=
        amountIs.resolve_right fun missing => movement.amount_ne_zero missing.2.symm
      obtain rfl : letter = some movement.direction.letter :=
        letterIs.resolve_right fun missing => Direction.letter_ne_empty _ missing.2.symm
      have told : description.getD none = some movement.description :=
        descriptionIs.resolve_right fun missing => movement.description_ne_empty missing.2.symm
      rw [Option.getD_eq_iff] at told
      obtain rfl : description = some (some movement.description) :=
        told.resolve_right fun missing => Option.some_ne_none _ missing.2.symm
      rfl
  · rintro rfl
    have known : Direction.ofLetter? movement.direction.letter = some movement.direction :=
      Direction.ofLetter?_eq_some_iff.mpr rfl
    simp only [ofDraft, toDraft, Option.getD_some, known, make_movement]

/-- A request is read as a movement exactly if its body is read as the draft of that movement. -/
theorem ofRequest_eq_ok_iff {body : String} {movement : Movement} :
    ofRequest body = .ok movement ↔
      readWhole (layout.read fullDepth) body.toList = .ok movement.toDraft := by
  rw [ofRequest]
  split
  next draft read => rw [read, ofDraft_eq_ok_iff, Except.ok.injEq]
  next fault read => rw [read]; simp

/-! ## Reading a body -/

/-- A draft after one more clause. -/
def Draft.note (draft : Draft) (clause : Clause) : Draft :=
  ⟨clause.draft.amount <|> draft.amount, clause.draft.direction <|> draft.direction,
    clause.draft.description <|> draft.description⟩

/-- A draft and the clauses that are still to come state a movement together: each of its fields
is stated once. -/
structure Leads (movement : Movement) (draft : Draft) (others : List Clause) : Prop where
  amount : draft.amount.toList ++ others.flatMap (·.draft.amount.toList) = [movement.amount]
  direction : draft.direction.toList ++ others.flatMap (·.draft.direction.toList) =
    [movement.direction.letter]
  description : draft.description.toList ++ others.flatMap (·.draft.description.toList) =
    [some movement.description]

theorem toList_append_eq_singleton {Field : Type} {held told : Option Field} {others : List Field}
    {only : Field} (once : held.toList ++ (told.toList ++ others) = [only]) :
    (told.isSome = true → held.isSome = false) ∧ (told <|> held).toList ++ others = [only] := by
  cases told with
  | none => exact ⟨fun absent => absurd absent Bool.false_ne_true, once⟩
  | some value =>
      cases held with
      | none => exact ⟨fun _ => rfl, once⟩
      | some other =>
          cases others <;> cases once

theorem eq_some_of_toList {Field : Type} {held : Option Field} {only : Field}
    (once : held.toList ++ [] = [only]) : held = some only := by
  rwa [List.append_nil, Option.toList_eq_singleton_iff] at once

namespace Leads

variable {movement : Movement} {draft : Draft} {clause : Clause} {others : List Clause}

/-- The clauses of a movement lead to it, among others and in any order. -/
theorem of_perm {clauses : List Clause} {names : List String}
    (stated : clauses.Perm (movement.clauses ++ names.map .other)) :
    Leads movement layout.blank clauses := by
  have once {Field : Type} (field : Draft → Option Field)
      (silent : ∀ name, field (Clause.other name).draft = none) {only : Field}
      (told : movement.clauses.flatMap (fun clause => (field clause.draft).toList) =
        [only]) :
      clauses.flatMap (fun clause => (field clause.draft).toList) = [only] := by
    have others : (names.map Clause.other).flatMap
        (fun clause => (field clause.draft).toList) = [] := by
      simp [List.flatMap_map, silent]
    rw [← List.perm_singleton]
    refine (stated.flatMap_right _).trans ?_
    rw [List.flatMap_append, told, others, List.append_nil]
  exact ⟨once Draft.amount (fun _ => rfl) rfl, once Draft.direction (fun _ => rfl) rfl,
    once Draft.description (fun _ => rfl) rfl⟩

theorem note (leads : Leads movement draft (clause :: others)) :
    Leads movement (draft.note clause) others where
  amount := (toList_append_eq_singleton leads.amount).2
  direction := (toList_append_eq_singleton leads.direction).2
  description := (toList_append_eq_singleton leads.description).2

theorem eq_toDraft (leads : Leads movement draft []) : draft = movement.toDraft := by
  obtain ⟨amount, direction, description⟩ := draft
  cases eq_some_of_toList leads.amount
  cases eq_some_of_toList leads.direction
  cases eq_some_of_toList leads.description
  rfl

/-- A clause is read into a draft that leads to a movement with it. -/
theorem takesMember (leads : Leads movement draft (clause :: others)) {depth : Nat}
    {value spelling left right : List Char} (written : clause.ValueText value)
    (spelled : Spelled spelling clause.name.toList) (before : Gap left) (after : Gap right) :
    layout.TakesMember depth draft (spelling ++ '"' :: (left ++ ':' :: (right ++ value)))
      (draft.note clause) := by
  have freshAmount := (toList_append_eq_singleton leads.amount).1
  have freshDirection := (toList_append_eq_singleton leads.direction).1
  have freshDescription := (toList_append_eq_singleton leads.description).1
  cases written with
  | amount value =>
      refine Layout.takesMember_of_slot spelled rfl (freshAmount rfl) before ?_ after
      exact (takes_readInt64 value).map fun value => { draft with amount := some value }
  | direction spelledValue =>
      refine Layout.takesMember_of_slot spelled rfl (freshDirection rfl) before ?_ after
      exact (spelledValue.takes_readStringAs _).map fun letter =>
        { draft with direction := some letter }
  | description spelledValue =>
      refine Layout.takesMember_of_slot spelled rfl (freshDescription rfl) before ?_ after
      exact ((spelledValue.takes_readStringAs _).readOptional rfl rfl (by decide)).map
        fun text => { draft with description := some text }
  | other foreign written =>
      refine Layout.takesMember_of_foreign draft spelled ?_ before after written
      rw [List.find?_eq_none]
      intro slot member same
      have known : slot.name ∈ layout.slots.map Json.Slot.name := List.mem_map_of_mem member
      rw [beq_iff_eq.mp same] at known
      exact foreign known

/-- The members after some blanks are read up to the end of the object. -/
theorem members {clauses : List Clause} {texts : List (List Char)}
    (written : List.Forall₂ Clause.MemberText clauses texts)
    (leads : Leads movement draft clauses) (depth : Nat) {gap : List Char} (blank : Gap gap) :
    layout.Members depth false draft (gap ++ (texts.flatMap ([','] ++ ·) ++ ['\x7d']))
      movement.toDraft := by
  -- The blanks behind a member are read with what follows it, so they are its successor's gap.
  induction written generalizing draft gap with
  | nil =>
      rw [← leads.eq_toDraft]
      exact .done blank
  | cons first others inductionHypothesis =>
      cases first with
      | member front spelled beforeColon afterColon value back =>
          have rest := inductionHypothesis leads.note back
          have next := Layout.Members.next blank front
            (leads.takesMember value spelled beforeColon afterColon) rest
          simp only [List.flatMap_cons, List.append_assoc, List.cons_append, List.nil_append]
            at next ⊢
          exact next

/-- All members are read. -/
theorem members_of_first {clauses : List Clause} {texts : List (List Char)}
    (written : List.Forall₂ Clause.MemberText clauses texts)
    (leads : Leads movement draft clauses) {depth : Nat} :
    layout.Members depth true draft (joinWith [','] texts ++ ['\x7d']) movement.toDraft := by
  cases written with
  | nil =>
      rw [← leads.eq_toDraft]
      exact .done gap_nil
  | cons first others =>
      cases first with
      | member front spelled beforeColon afterColon value back =>
          have all := Layout.Members.first front
            (leads.takesMember value spelled beforeColon afterColon)
            (members others leads.note depth back)
          rw [joinWith_cons]
          simp only [List.append_assoc, List.cons_append, List.nil_append] at all ⊢
          exact all

end Leads

theorem complete_toDraft (movement : Movement) : layout.Complete movement.toDraft := by
  simp only [Layout.Complete, layout, List.forall_mem_cons]
  exact ⟨fun _ => rfl, fun _ => rfl, fun _ => rfl, List.forall_mem_nil _⟩

/-- The body of a request that states a movement is read as that movement. -/
theorem ofRequest_of_bodyText {movement : Movement} {clauses : List Clause}
    {names : List String} (stated : clauses.Perm (movement.clauses ++ names.map .other))
    {body : String} (written : BodyText clauses body.toList) :
    ofRequest body = .ok movement := by
  rw [ofRequest_eq_ok_iff]
  generalize body.toList = text at written
  cases written with
  | @object before after members front written back =>
      have takes : Takes (layout.read fullDepth) _ movement.toDraft :=
        Layout.Members.takes_read (by decide) (Leads.members_of_first written (.of_perm stated))
          (complete_toDraft movement)
      have whole := takes.readWhole front back
      simp only [List.append_assoc, List.cons_append, List.nil_append] at whole
      exact whole

/-- Bodies of requests are accepted exactly when they are valid.  If a body is accepted as a
movement, then it was read as the three fields of that movement, the amount is positive and fits
into sixty-four bits, and the description has one to ten characters.  And let an amount, a direction
and a description of that kind be stated by an object, once each and in any order, with any members
of other names among them.  Then the object is accepted as exactly that movement, however the names
and texts are spelled, whatever the values of the other members are and wherever blanks stand. -/
theorem requests_are_accepted_exactly_when_valid (body : String) :
    (∀ movement, ofRequest body = .ok movement →
      readWhole (layout.read fullDepth) body.toList =
        .ok ⟨some movement.amount, some movement.direction.letter,
          some (some movement.description)⟩ ∧
      (1 ≤ movement.amount.toInt ∧ movement.amount.toInt ≤ Int64.maxValue.toInt) ∧
      1 ≤ movement.description.toList.length ∧ movement.description.toList.length ≤ 10) ∧
    ∀ (amount : Int64) (direction : Direction) (description : String) (names : List String)
        (clauses : List Clause),
      1 ≤ amount.toInt → 1 ≤ description.toList.length → description.toList.length ≤ 10 →
      clauses.Perm ([.amount amount, .direction direction, .description description] ++
        names.map .other) →
      BodyText clauses body.toList →
        ∃ movement, ofRequest body = .ok movement ∧ movement.amount = amount ∧
          movement.direction = direction ∧ movement.description = description := by
  constructor
  · intro movement accepted
    have fits := movement.description_fits
    rw [← String.length_toList] at fits
    exact ⟨ofRequest_eq_ok_iff.mp accepted, ⟨movement.amount_pos, movement.amount.toInt_le⟩, fits⟩
  · intro amount direction description names clauses positive some short stated written
    rw [String.length_toList] at some short
    let movement : Movement := ⟨amount, direction, description, positive, some, short⟩
    have stated : clauses.Perm (movement.clauses ++ names.map .other) := stated
    exact ⟨movement, ofRequest_of_bodyText stated written, rfl, rfl, rfl⟩

/-- The amount comes last, the description starts with a surrogate pair, and an escape spells the
first letter of a name.  Among these members there are one without a name and one with a nested
value, in which half of a surrogate pair stands alone. -/
theorem requests_are_accepted_exactly_when_valid_in_other_spellings :
    let body := "\t\x7b\"direction\": \"d\",\"x\":[\x7b\"\\ud800\":-0E+3\x7d,[] ],\n" ++
      "\"description\" :\"\\ud83D\\uDE00!\",\"\":null,\"\\u0061mount\":7 \x7d\n"
    ∃ movement, ofRequest body = .ok movement ∧ movement.amount = 7 ∧
      movement.direction = .debit ∧ movement.description = "😀!" := by
  intro body
  have half : HexCode "d800".toList 0xD800 :=
    .digits ('d', 13) ('8', 8) ('0', 0) ('0', 0) (by decide)
  have high : HexCode "d83D".toList (0xD800 + 0x3D) :=
    .digits ('d', 13) ('8', 8) ('3', 3) ('D', 13) (by decide)
  have low : HexCode "DE00".toList (0xDC00 + 0x200) :=
    .digits ('D', 13) ('E', 14) ('0', 0) ('0', 0) (by decide)
  have letter : HexCode "0061".toList 'a'.toNat :=
    .digits ('0', 0) ('0', 0) ('6', 6) ('1', 1) (by decide)
  have plain (text : String) : Spelled (text.toList.flatMap escapeCharacter) text.toList :=
    spelled_flatMap_escapeCharacter text.toList
  have space : Gap [' '] := gap_singleton rfl
  have number : Written .value "-0E+3".toList :=
    .negative (.parts .zero .none (.digits (by decide) ['+'] (by decide)
      ⟨List.cons_ne_nil _ _, List.forall_mem_singleton.mpr rfl⟩))
  have nested : Written .value "[\x7b\"\\ud800\":-0E+3\x7d,[] ]".toList :=
    .bracket .array <| .first gap_nil .element
      (.bracket .object <| .first gap_nil (.member (.code half .nil) gap_nil gap_nil) number
        (.done gap_nil)) <|
      .next gap_nil gap_nil .element (.bracket .array (.empty gap_nil)) (.done space)
  have debit : Spelled _ Direction.debit.letter.toList := plain "d"
  have direction : Clause.MemberText (.direction .debit) _ :=
    .member gap_nil (plain "direction") gap_nil space (.direction debit) gap_nil
  have other : Clause.MemberText (.other "x") _ :=
    .member gap_nil (plain "x") gap_nil gap_nil (.other (by decide) nested) gap_nil
  have smile : Spelled ("\\ud83D\\uDE00".toList ++ "!".toList) "😀!".toList :=
    .cons (.pair high (by decide) low (by decide) rfl) (plain "!")
  have lineEnd : Gap ['\n'] := gap_singleton rfl
  have description : Clause.MemberText (.description "😀!") _ :=
    .member lineEnd (plain "description") space gap_nil (.description smile) gap_nil
  have unnamed : Clause.MemberText (.other "") _ :=
    .member gap_nil (plain "") gap_nil gap_nil (.other (by decide) (.word List.mem_cons_self))
      gap_nil
  have name : Spelled ("\\u0061".toList ++ "mount".toList) "amount".toList :=
    .cons (.code letter) (plain "mount")
  have amount : Clause.MemberText (.amount 7) _ :=
    .member gap_nil name gap_nil gap_nil (.amount 7) space
  have tabulator : Gap ['\t'] := gap_singleton rfl
  let clauses : List Clause :=
    [.direction .debit, .other "x", .description "😀!", .other "", .amount 7]
  have object : BodyText clauses _ :=
    .object tabulator (.cons direction <| .cons other <| .cons description <| .cons unnamed <|
      .cons amount .nil) lineEnd
  refine (requests_are_accepted_exactly_when_valid body).2 7 .debit "😀!" ["x", ""] clauses
    (by decide) (by decide) (by decide) ?_ (Eq.mp (congrArg (BodyText clauses) ?_) object)
  · decide
  · decide +kernel

end Movement

end BankLedger.Ledger
