import Mathlib.Data.List.TakeWhile
import BankLedger.Text.Blank

/-!
# Trimming

Blanks around a text do not matter once it is trimmed, and a text without blanks is not changed by
trimming.
-/

namespace BankLedger.Text

/-- Blanks in front make no difference. -/
theorem trim_append_left {before : List Char}
    (blank : ∀ character ∈ before, isBlank character = true) (text : List Char) :
    trim (before ++ text) = trim text := by
  rw [trim, trimStart, List.dropWhile_append_of_pos blank]
  rfl

/-- Blanks behind make no difference. -/
theorem trim_append_right {text after : List Char}
    (solid : ∃ character ∈ text, isBlank character = false)
    (blank : ∀ character ∈ after, isBlank character = true) : trim (text ++ after) = trim text := by
  have some : ¬(text.dropWhile isBlank).isEmpty = true := by
    obtain ⟨character, member, notBlank⟩ := solid
    rw [List.isEmpty_iff, List.dropWhile_eq_nil_iff]
    intro all
    rw [all character member] at notBlank
    contradiction
  have start : trimStart (text ++ after) = trimStart text ++ after := by
    rw [trimStart, List.dropWhile_append, if_neg some]
    rfl
  rw [trim, start, trimEnd, List.reverse_append, List.dropWhile_append_of_pos]
  · rfl
  · simpa using blank

/-- A text that neither starts nor ends with a blank stays as it is. -/
theorem trim_of_ends {text : List Char} (front : ∀ first ∈ text.head?, isBlank first = false)
    (behind : ∀ last ∈ text.getLast?, isBlank last = false) : trim text = text := by
  have kept {characters : List Char}
      (solid : ∀ first ∈ characters.head?, isBlank first = false) :
      characters.dropWhile isBlank = characters := by
    cases characters with
    | nil => rfl
    | cons first rest => exact List.dropWhile_cons_of_neg (by simp [solid first rfl])
  have reversed : ∀ first ∈ text.reverse.head?, isBlank first = false := by
    rwa [List.head?_reverse]
  rw [trim, trimStart, kept front, trimEnd, kept reversed, List.reverse_reverse]

/-- A text without blanks stays as it is. -/
theorem trim_of_solid {text : List Char}
    (solid : ∀ character ∈ text, isBlank character = false) : trim text = text := by
  apply trim_of_ends
  · intro first same
    exact solid first (List.mem_of_mem_head? same)
  · intro last same
    exact solid last (List.mem_of_getLast? same)

/-- Trimming takes away blanks only. -/
theorem mem_trim_iff {character : Char} (solid : isBlank character = false) {text : List Char} :
    character ∈ trim text ↔ character ∈ text := by
  have kept (characters : List Char) :
      character ∈ characters.dropWhile isBlank ↔ character ∈ characters := by
    constructor
    · exact fun member => (List.dropWhile_sublist isBlank).mem member
    · intro member
      rw [← List.takeWhile_append_dropWhile (p := isBlank) (l := characters)] at member
      refine (List.mem_append.mp member).resolve_left fun front => ?_
      rw [List.mem_takeWhile_imp front] at solid
      contradiction
  rw [trim, trimEnd, List.mem_reverse, kept, List.mem_reverse, trimStart, kept]

/-- Trimming leaves nothing exactly of a blank text. -/
theorem isEmpty_trim (text : List Char) :
    (trim text).isEmpty = true ↔ ∀ character ∈ text, isBlank character = true := by
  constructor
  · intro empty character member
    rw [List.isEmpty_iff, trim, trimEnd, List.reverse_eq_nil_iff,
      List.dropWhile_eq_nil_iff] at empty
    rw [← takeWhile_append_trimStart text] at member
    rcases List.mem_append.mp member with front | rest
    · exact List.mem_takeWhile_imp front
    · exact empty character (List.mem_reverse.mpr rest)
  · intro blank
    have nothing : trimStart text = [] := List.dropWhile_eq_nil_iff.mpr blank
    rw [trim, nothing]
    rfl

end BankLedger.Text
