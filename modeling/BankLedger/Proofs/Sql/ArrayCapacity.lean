import BankLedger.Proofs.Sql.ArrayOctets
import BankLedger.Proofs.Sql.WireRoundTrip

/-!
# Buffers for elements

A buffer is set up for as many elements as are counted in front of the split.  The count may be too
large, for an array without items or a comma before a closing brace, and is never too small.  A
parameter has neither, so the buffer for it has exactly the size that is needed.
-/

namespace BankLedger.Sql

open ArrayLiteral

section

variable {α : Type} {written text : α → String} {elements : List α}

/-- The elements of a list in braces are counted exactly. -/
theorem count_braced
    (readable : ∀ element ∈ elements, Readable (.text (text element)) (written element).toList) :
    count (Value.braced (elements.map written)) = elements.length := by
  rw [(literal_braced readable).count_eq, Tree.leaves, Tree.emptyArrays, leavesOfAll_map_leaf,
    emptyArraysOfAll_map_leaf]
  cases elements with
  | nil => rfl
  | cons element elements => simp

end

/-- An array of numbers, truth values or texts is sent as a list in braces. -/
theorem exists_braced_of_kind (position : Nat) {value : Value}
    (kind : value.kind ∈ [.intArray, .boolArray, .floatArray, .stringArray]) :
    ∃ (α : Type) (written text : α → String) (elements : List α),
      wireText position value = .ok (some (Value.braced (elements.map written))) ∧
      elements.length = value.elementCount ∧
      ∀ element, Readable (.text (text element)) (written element).toList := by
  cases value with
  | intArray numbers =>
      exact ⟨Int64, _, _, numbers, rfl, rfl, fun number => (numeric_repr number.toInt).readable⟩
  | boolArray truths => exact ⟨Bool, _, _, truths, rfl, rfl, readable_boolText⟩
  | floatArray numbers => exact ⟨Binary64, _, _, numbers, rfl, rfl, readable_wireText⟩
  | stringArray texts => exact ⟨String, _, _, texts, rfl, rfl, readable_elementText⟩
  | null | int | bool | float | string | blob | blobArray | invalid => simp [Value.kind] at kind

/-- The buffer is set up for as many elements as are counted in the whole literal. -/
theorem splitBuffered_of_split {literal : String} {elements : List Element}
    (splits : split literal = .ok elements) :
    Octetwise.splitBuffered literal = pure (count literal, elements) := by
  rw [Octetwise.splitBuffered_eq]
  rw [split] at splits
  cases dropped : dropDimensions? literal.toList with
  | none =>
      rw [dropped] at splits
      cases splits
  | some body =>
      rw [dropped] at splits
      dsimp only at splits
      obtain ⟨rest, _, started, _, _⟩ := splitBody_eq_ok_iff.mp splits
      rw [← count_ofList_body dropped started]
      dsimp only
      rw [splits]
      rfl

/-- A literal that is split has at most as many elements as are counted, which is what the buffer is
set up for, and the pass over octets counts as many.  The literal that is sent for an array of
numbers, truth values or texts, which may be of any length and hold anything, has exactly as many
elements as are counted, and as many as the array. -/
theorem buffers_are_large_enough :
    (∀ literal elements, split literal = .ok elements →
      elements.length ≤ count literal ∧
      Octetwise.splitBuffered literal = pure (count literal, elements)) ∧
    (∀ literal, Octetwise.count literal = pure (count literal)) ∧
    ∀ position value, value.kind ∈ [.intArray, .boolArray, .floatArray, .stringArray] →
      ∃ literal elements, wireText position value = .ok (some literal) ∧
        split literal = .ok elements ∧ elements.length = count literal ∧
        elements.length = value.elementCount := by
  refine ⟨?_, ?_, ?_⟩
  · intro literal elements splits
    exact ⟨length_le_count splits, splitBuffered_of_split splits⟩
  · exact Octetwise.count_eq
  · intro position value kind
    obtain ⟨_, written, text, members, writes, size, readable⟩ := exists_braced_of_kind position kind
    have readableMembers : ∀ member ∈ members,
        Readable (.text (text member)) (written member).toList := fun member _ => readable member
    refine ⟨_, _, writes, split_braced readableMembers, ?_, ?_⟩
    · rw [count_braced readableMembers, List.length_map, List.length_map]
    · rw [List.length_map, List.length_map, size]

/-- Too large for arrays without items and commas before closing braces; exact for texts that hold
commas, braces, quotes and backslashes, for no number, and for no texts at all. -/
theorem buffers_are_large_enough_for_odd_arrays :
    ([Element.text "1"].length ≤ count "\x7b\x7b\x7d,\x7b1,\x7d\x7d" ∧
      Octetwise.splitBuffered "\x7b\x7b\x7d,\x7b1,\x7d\x7d" =
        pure (count "\x7b\x7b\x7d,\x7b1,\x7d\x7d", [.text "1"])) ∧
    (∃ literal elements,
      wireText 1 (.stringArray ["a,\x7b", "", "\"\\", "é"]) = .ok (some literal) ∧
        split literal = .ok elements ∧ elements.length = count literal ∧ elements.length = 4) ∧
    (∃ literal elements,
      wireText 1 (.floatArray [⟨0x7ff8000000000000⟩]) = .ok (some literal) ∧
        split literal = .ok elements ∧ elements.length = count literal ∧ elements.length = 1) := by
  refine ⟨?_, ?_, ?_⟩
  · exact buffers_are_large_enough.1 _ _ (by decide +kernel)
  · exact buffers_are_large_enough.2.2 1 (.stringArray _) (by decide)
  · exact buffers_are_large_enough.2.2 1 (.floatArray _) (by decide)

end BankLedger.Sql
