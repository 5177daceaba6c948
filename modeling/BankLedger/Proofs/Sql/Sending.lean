import Mathlib.Data.List.Forall2
import BankLedger.Sql.Parameter

/-!
# Which parameters can be sent

Whether a value has a text depends on its kind alone, and the text does not depend on the position.
So the parameters of a query are all sent, each as its own text, or the first of those that cannot
be sent decides the failure, which names its position.
-/

namespace BankLedger.Sql

namespace ParameterError

/-- The position that an error names. -/
def position : ParameterError → Nat
  | .unsupported position _ | .invalid position => position

/-- The wording of an error begins with its position. -/
theorem exists_message_eq (failure : ParameterError) :
    ∃ reason, failure.message = s!"parameter ${failure.position} " ++ reason := by
  cases failure with
  | unsupported position kind =>
      have split : " has kind '" = " " ++ "has kind '" := rfl
      refine ⟨s!"has kind '{kind.name}', which cannot be sent to the database", ?_⟩
      simp only [message, ParameterError.position, toString, split, String.append_assoc]
  | invalid position =>
      have split : " is invalid and cannot be sent as a value or as null" =
          " " ++ "is invalid and cannot be sent as a value or as null" := rfl
      refine ⟨"is invalid and cannot be sent as a value or as null", ?_⟩
      simp only [message, ParameterError.position, toString, split, String.append_assoc]

end ParameterError

/-- Whether values of a kind can be sent. -/
def Kind.isSendable : Kind → Bool
  | .blob | .blobArray | .invalid => false
  | _ => true

/-- Whether a value can be sent. -/
def Value.Sendable (value : Value) : Prop :=
  value.kind.isSendable = true

instance (value : Value) : Decidable value.Sendable :=
  inferInstanceAs (Decidable (_ = true))

/-- A text of a value, whatever its position. -/
def Spelled (value : Value) (text : WireText) : Prop :=
  ∀ position, wireText position value = .ok text

theorem exists_spelled {value : Value} (sendable : value.Sendable) :
    ∃ text, Spelled value text := by
  cases value with
  | blob | blobArray | invalid => cases sendable
  | _ => exact ⟨_, fun _ => rfl⟩

theorem exists_failure {value : Value} (unsendable : ¬value.Sendable) (position : Nat) :
    ∃ failure, wireText position value = .error failure ∧ failure.position = position := by
  cases value with
  | blob | blobArray | invalid => exact ⟨_, rfl, rfl⟩
  | _ => exact absurd rfl unsendable

section

variable {value : Value} {others : List Value} {position : Nat}

theorem wireTextsFrom_cons_of_ok {text : WireText} (sent : wireText position value = .ok text) :
    wireTextsFrom position (value :: others) =
      (wireTextsFrom (position + 1) others).map (text :: ·) := by
  rw [wireTextsFrom, sent]
  cases wireTextsFrom (position + 1) others <;> rfl

theorem wireTextsFrom_cons_of_error {failure : ParameterError}
    (rejected : wireText position value = .error failure) :
    wireTextsFrom position (value :: others) = .error failure := by
  rw [wireTextsFrom, rejected]
  rfl

end

theorem exists_wireTextsFrom {values : List Value} (sendable : ∀ value ∈ values, value.Sendable)
    (position : Nat) :
    ∃ texts, wireTextsFrom position values = .ok texts ∧ List.Forall₂ Spelled values texts := by
  induction values generalizing position with
  | nil => exact ⟨[], rfl, .nil⟩
  | cons value others inductionHypothesis =>
      rw [List.forall_mem_cons] at sendable
      obtain ⟨text, spelled⟩ := exists_spelled sendable.1
      obtain ⟨texts, sent, all⟩ := inductionHypothesis sendable.2 (position + 1)
      refine ⟨text :: texts, ?_, .cons spelled all⟩
      rw [wireTextsFrom_cons_of_ok (spelled position), sent]
      rfl

theorem exists_wireTextsFrom_error {before : List Value} {value : Value} (after : List Value)
    (sendable : ∀ other ∈ before, other.Sendable) (unsendable : ¬value.Sendable)
    (position : Nat) :
    ∃ failure, wireTextsFrom position (before ++ value :: after) = .error failure ∧
      failure.position = position + before.length := by
  induction before generalizing position with
  | nil =>
      obtain ⟨failure, rejected, named⟩ := exists_failure unsendable position
      exact ⟨failure, wireTextsFrom_cons_of_error rejected, named⟩
  | cons first before inductionHypothesis =>
      rw [List.forall_mem_cons] at sendable
      obtain ⟨text, spelled⟩ := exists_spelled sendable.1
      obtain ⟨failure, rejected, named⟩ := inductionHypothesis sendable.2 (position + 1)
      refine ⟨failure, ?_, ?_⟩
      · rw [List.cons_append, wireTextsFrom_cons_of_ok (spelled position), rejected]
        rfl
      · rw [named, List.length_cons]
        omega

/-- Parameters that can all be sent are, in order, as their texts. -/
theorem exists_wireTexts {parameters : List Value}
    (sendable : ∀ value ∈ parameters, value.Sendable) :
    ∃ texts, wireTexts parameters = .ok texts ∧ List.Forall₂ Spelled parameters texts :=
  exists_wireTextsFrom sendable 1

/-- The first parameter that cannot be sent decides the failure. -/
theorem exists_wireTexts_error {before : List Value} {value : Value} (after : List Value)
    (sendable : ∀ other ∈ before, other.Sendable) (unsendable : ¬value.Sendable) :
    ∃ failure, wireTexts (before ++ value :: after) = .error failure ∧
      failure.position = before.length + 1 := by
  obtain ⟨failure, rejected, named⟩ := exists_wireTextsFrom_error after sendable unsendable 1
  exact ⟨failure, rejected, named.trans (Nat.add_comm ..)⟩

/-- One of the parameters that cannot all be sent comes first. -/
theorem exists_first_unsendable {parameters : List Value}
    (unsendable : ∃ value ∈ parameters, ¬value.Sendable) :
    ∃ before value after, parameters = before ++ value :: after ∧
      (∀ other ∈ before, other.Sendable) ∧ ¬value.Sendable := by
  have found : (parameters.find? fun value => !decide value.Sendable).isSome := by
    simpa [List.find?_isSome] using unsendable
  obtain ⟨value, first⟩ := Option.isSome_iff_exists.mp found
  obtain ⟨last, before, after, split, sendable⟩ := List.find?_eq_some_iff_append.mp first
  exact ⟨before, value, after, split, by simpa using sendable, by simpa using last⟩

/-- Parameters that are sent can all be sent. -/
theorem sendable_of_wireTexts {parameters : List Value} {texts : List WireText}
    (sent : wireTexts parameters = .ok texts) : ∀ value ∈ parameters, value.Sendable := by
  by_contra unsendable
  push Not at unsendable
  obtain ⟨before, value, after, rfl, sendable, bad⟩ := exists_first_unsendable unsendable
  obtain ⟨failure, unsent, _⟩ := exists_wireTexts_error after sendable bad
  cases sent.symm.trans unsent

end BankLedger.Sql
