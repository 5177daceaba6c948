import Mathlib.Data.String.Basic
import BankLedger.Json.Value

/-!
# Objects ordered by name

Members are put one after another into an object that is ordered by name.  What stands under a name
in the end is what was put there last, and the names of the object ascend, so none is repeated.
-/

namespace BankLedger.Json

variable {name other : String} {value : Json} {members : List (String × Json)}

/-- Members with ascending names. -/
def Ascending (members : List (String × Json)) : Prop :=
  members.Pairwise fun member later => member.1 < later.1

/-- The members of the object that some members make. -/
def membersByName (members : List (String × Json)) : List (String × Json) :=
  members.foldl (fun sorted member => insertMember member.1 member.2 sorted) []

/-- A name is among those of some members exactly if something is found under it. -/
theorem mem_names_iff :
    name ∈ members.map Prod.fst ↔ members.lookup name ≠ none := by
  rw [Ne, List.lookup_eq_none_iff]
  simp

/-! ## One more member -/

theorem lookup_insertMember_self (name : String) (value : Json) (members : List (String × Json)) :
    (insertMember name value members).lookup name = some value := by
  induction members with
  | nil => exact List.lookup_cons_self
  | cons member rest inductionHypothesis =>
      rw [insertMember]
      split
      next => exact List.lookup_cons_self
      next =>
        split
        next => exact List.lookup_cons_self
        next different =>
          rw [List.lookup_cons, Bool.eq_false_of_not_eq_true different]
          exact inductionHypothesis

theorem lookup_insertMember_of_ne (different : other ≠ name) (value : Json)
    (members : List (String × Json)) :
    (insertMember name value members).lookup other = members.lookup other := by
  have skipped (value : Json) (rest : List (String × Json)) :
      ((name, value) :: rest).lookup other = rest.lookup other := by
    rw [List.lookup_cons, beq_false_of_ne different]
  induction members with
  | nil => exact skipped value []
  | cons member rest inductionHypothesis =>
      rw [insertMember]
      split
      next => exact skipped value _
      next =>
        split
        next same =>
          obtain rfl := beq_iff_eq.mp same
          rw [skipped, skipped]
        next => rw [List.lookup_cons, List.lookup_cons, inductionHypothesis]

theorem fst_of_mem_insertMember {member : String × Json}
    (held : member ∈ insertMember name value members) :
    member.1 = name ∨ member ∈ members := by
  induction members with
  | nil => exact .inl (congrArg Prod.fst (List.mem_singleton.mp held))
  | cons first rest inductionHypothesis =>
      rw [insertMember] at held
      split at held
      next =>
        rcases List.mem_cons.mp held with rfl | kept
        · exact .inl rfl
        · exact .inr kept
      next =>
        split at held
        next =>
          rcases List.mem_cons.mp held with rfl | kept
          · exact .inl rfl
          · exact .inr (List.mem_cons_of_mem _ kept)
        next =>
          rcases List.mem_cons.mp held with rfl | kept
          · exact .inr List.mem_cons_self
          · exact (inductionHypothesis kept).imp_right (List.mem_cons_of_mem _)

theorem Ascending.insertMember (ascending : Ascending members) (name : String) (value : Json) :
    Ascending (insertMember name value members) := by
  induction members with
  | nil => exact List.pairwise_singleton ..
  | cons first rest inductionHypothesis =>
      obtain ⟨before, others⟩ := List.pairwise_cons.mp ascending
      rw [Json.insertMember]
      split
      next less =>
        refine List.pairwise_cons.mpr ⟨?_, ascending⟩
        intro member held
        rcases List.mem_cons.mp held with rfl | later
        · exact less
        · exact lt_trans less (before member later)
      next notLess =>
        split
        next same =>
          obtain rfl := beq_iff_eq.mp same
          exact List.pairwise_cons.mpr ⟨before, others⟩
        next different =>
          refine List.pairwise_cons.mpr ⟨?_, inductionHypothesis others⟩
          intro member held
          rcases fst_of_mem_insertMember held with same | later
          · rw [same]
            apply lt_of_le_of_ne (not_lt.mp notLess)
            intro equal
            exact different (beq_iff_eq.mpr equal.symm)
          · exact before member later

/-! ## All members -/

/-- What stands under a name is what was put there last, or was there before. -/
theorem lookup_foldl_insertMember (name : String) (members held : List (String × Json)) :
    (members.foldl (fun sorted member => insertMember member.1 member.2 sorted) held).lookup name =
      (members.reverse.lookup name).or (held.lookup name) := by
  induction members generalizing held with
  | nil => rfl
  | cons member rest inductionHypothesis =>
      rw [List.foldl_cons, inductionHypothesis, List.reverse_cons, List.lookup_append,
        Option.or_assoc]
      congr 1
      by_cases same : name = member.1
      · obtain rfl := same
        rw [lookup_insertMember_self, List.lookup_cons_self, Option.some_or]
      · rw [lookup_insertMember_of_ne same, List.lookup_cons, beq_false_of_ne same]
        rfl

theorem lookup_membersByName (name : String) (members : List (String × Json)) :
    (membersByName members).lookup name = members.reverse.lookup name := by
  rw [membersByName, lookup_foldl_insertMember]
  exact Option.or_none

theorem ascending_membersByName (members : List (String × Json)) :
    Ascending (membersByName members) := by
  have kept (held : List (String × Json)) (ascending : Ascending held) : Ascending
      (members.foldl (fun sorted member => insertMember member.1 member.2 sorted) held) := by
    induction members generalizing held with
    | nil => exact ascending
    | cons member rest inductionHypothesis =>
        exact inductionHypothesis _ (ascending.insertMember member.1 member.2)
  exact kept [] List.Pairwise.nil

end BankLedger.Json
