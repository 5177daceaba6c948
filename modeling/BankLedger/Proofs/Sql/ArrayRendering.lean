import BankLedger.Proofs.Sql.ArraySplit
import BankLedger.Sql.Parameter

/-!
# Writing array literals

A nest of arrays can be written in many ways: with blanks or without, with the quotes that a
parameter needs or with quotes and escapes that nobody needs, with dimensions in front.  Whatever
the writer chooses, splitting gives the elements of the nest back, in row-major order.
-/

namespace BankLedger.Sql.ArrayLiteral

open BankLedger.Text

/-- How a writer may write an element: a null in any letter case, a text as a parameter has it, or a
text in quotes with at least the quotes and the backslashes in it protected. -/
inductive Rendered : Element → List Char → Prop
  | null {word : List Char} : word.map Char.toUpper = ['N', 'U', 'L', 'L'] → Rendered .null word
  | asParameter (text : String) : Rendered (.text text) (quoteElement text.toList)
  | inQuotes {text : String} {written : List Char} : Spells PlainInQuotes written text.toList →
      Rendered (.text text) ('"' :: (written ++ ['"']))

theorem Spells.of_plain {plain : Char → Prop} {text : List Char}
    (allowed : ∀ character ∈ text, plain character) : Spells plain text text :=
  Spells.nil.append_plain allowed

/-- A letter of a word that spells a null. -/
theorem plain_of_toUpper {character letter : Char} (upper : character.toUpper = letter)
    (member : letter ∈ ['N', 'U', 'L']) :
    PlainOutsideQuotes character ∧ isBlank character = false := by
  unfold Char.toUpper at upper
  split at upper
  case isTrue lower =>
    -- A small letter, whose code lies between those of the blanks and those of the braces.
    obtain ⟨least, greatest⟩ := lower
    rw [UInt32.le_iff_toNat_le] at least greatest
    change 97 ≤ character.toNat at least
    change character.toNat ≤ 122 at greatest
    constructor
    · intro special
      simp only [List.mem_cons, List.not_mem_nil, or_false] at special
      rcases special with rfl | rfl | rfl | rfl | rfl <;> revert least greatest <;> decide
    · simp [isBlank]
      omega
  case isFalse =>
    subst upper
    simp only [List.mem_cons, List.not_mem_nil, or_false] at member
    rcases member with rfl | rfl | rfl <;> decide

/-- A text whose characters all stand for themselves, none of them a blank. -/
def Ordinary (text : List Char) : Prop :=
  ∀ character ∈ text, PlainOutsideQuotes character ∧ isBlank character = false

theorem Ordinary.spells {text : List Char} (ordinary : Ordinary text) :
    Spells PlainOutsideQuotes text text :=
  Spells.of_plain fun character member => (ordinary character member).1

theorem Ordinary.unprotected {text : List Char} (ordinary : Ordinary text) :
    text.contains '\\' = false := by
  refine eq_false_of_ne_true fun protects => ?_
  exact (ordinary '\\' (List.contains_iff_mem.mp protects)).1 (by decide)

/-- An ordinary text is read without any change. -/
theorem Ordinary.readable {text : List Char} (ordinary : Ordinary text) (nonempty : text ≠ []) :
    Readable (unquotedElement text) text := by
  have trimmed : trim text = text :=
    trim_of_solid fun character member => (ordinary character member).2
  have readable : Readable (unquotedElement (trim text)) text := by
    refine .unquoted ordinary.spells ?_
    obtain ⟨first, rest, rfl⟩ := List.exists_cons_of_ne_nil nonempty
    exact ⟨first, List.mem_cons_self, (ordinary first List.mem_cons_self).2⟩
  rwa [trimmed] at readable

/-- An ordinary text that does not spell a null is read as itself. -/
theorem Ordinary.readable_text {text : List Char} (ordinary : Ordinary text) (nonempty : text ≠ [])
    (notNull : spellsNull text = false) : Readable (.text (String.ofList text)) text := by
  have element : unquotedElement text = .text (String.ofList text) := by
    rw [unquotedElement, ordinary.unprotected, notNull, ordinary.spells.unescape_eq (by decide)]
    rfl
  rw [← element]
  exact ordinary.readable nonempty

/-- A character that means nothing in an array literal stands for itself there. -/
theorem plain_of_not_special {character : Char} (ordinary : isArraySpecial character = false) :
    PlainOutsideQuotes character ∧ isBlank character = false := by
  simp only [isArraySpecial, Bool.or_eq_false_iff, beq_eq_false_iff_ne] at ordinary
  simpa [PlainOutsideQuotes, and_assoc, and_left_comm] using ordinary

/-- A text that needs no quotes is read as itself. -/
theorem Readable.of_needsNoQuotes {text : List Char} (quotes : needsQuotes text = false) :
    Readable (.text (String.ofList text)) text := by
  simp only [needsQuotes, Bool.or_eq_false_iff, List.any_eq_false] at quotes
  obtain ⟨⟨nonempty, notNull⟩, notSpecial⟩ := quotes
  have ordinary : Ordinary text := by
    intro character member
    exact plain_of_not_special (eq_false_of_ne_true (notSpecial character member))
  exact ordinary.readable_text (by simpa using nonempty) notNull

theorem Spells.of_escapeQuoted (text : List Char) :
    Spells PlainInQuotes (text.flatMap escapeQuoted) text := by
  induction text with
  | nil => exact .nil
  | cons character text inductionHypothesis =>
      rw [List.flatMap_cons, escapeQuoted]
      split
      case isTrue => exact .escaped inductionHypothesis
      case isFalse ordinary =>
        refine .plain ?_ inductionHypothesis
        simpa [PlainInQuotes] using ordinary

/-- Whatever a writer writes is read as it was meant. -/
theorem Rendered.readable {element : Element} {text : List Char}
    (rendered : Rendered element text) :
    Readable element text := by
  cases rendered with
  | @null word upper =>
      have ordinary : Ordinary text := by
        intro character member
        have letter : character.toUpper ∈ text.map Char.toUpper := List.mem_map_of_mem member
        rw [upper] at letter
        exact plain_of_toUpper rfl (by simpa using letter)
      have element : unquotedElement text = .null := by
        rw [unquotedElement, ordinary.unprotected, spellsNull, upper]
        rfl
      rw [← element]
      exact ordinary.readable (by rintro rfl; contradiction)
  | asParameter text =>
      rw [quoteElement]
      split
      case isTrue =>
        have readable := Readable.quoted (Spells.of_escapeQuoted text.toList)
        rwa [String.ofList_toList] at readable
      case isFalse quotes =>
        have readable := Readable.of_needsNoQuotes (eq_false_of_ne_true quotes)
        rwa [String.ofList_toList] at readable
  | @inQuotes text written spells =>
      have readable := Readable.quoted spells
      rwa [String.ofList_toList] at readable

/-- The grammar with fewer ways to write an element has fewer literals. -/
theorem Items.imp {written other : Element → List Char → Prop}
    (implies : ∀ element text, written element text → other element text) {dangling : Nat}
    {text : List Char} {trees : List Tree} (items : Items written dangling text trees) :
    Items other dangling text trees := by
  induction items with
  | element before after element => exact .element before after (implies _ _ element)
  | emptyArray before after inside => exact .emptyArray before after inside
  | array before after _ inductionHypothesis => exact .array before after inductionHypothesis
  | danglingArray before after blanks _ inductionHypothesis =>
      exact .danglingArray before after blanks inductionHypothesis
  | append _ _ firstHypothesis secondHypothesis => exact .append firstHypothesis secondHypothesis

/-- Splitting gives the leaves of a nest of arrays in row-major order, however the nest is
written. -/
theorem split_flattens_every_rendering {literal : String} {dangling : Nat} {members : List Tree}
    (rendered : Literal Rendered dangling literal.toList members) :
    split literal = .ok (Tree.array members).leaves := by
  obtain ⟨blanks, decoration, array, blank, decorates, items, whole⟩ := rendered
  have readable := items.imp fun _ _ rendered => rendered.readable
  rw [split_eq_ok_iff]
  exact ⟨dangling, members, ⟨blanks, decoration, array, blank, decorates, readable, whole⟩, rfl⟩

/-- Nesting of different depths with dimensions in front, needless quotes and escapes, blanks, and a
null in mixed case. -/
theorem split_flattens_every_rendering_of_a_mixed_nest :
    split "[0:1]= \x7b\x7ba ,\"b\\,\\\"\"\x7d,\x7b \x7d, nUlL\x7d\n" =
      .ok [.text "a", .text "b,\"", .null] := by
  have blank : Blanks [] := by simp [Blanks]
  have space : Blanks [' '] := by simp [Blanks, isAsciiBlank]
  have line : Blanks ['\n'] := by simp [Blanks, isAsciiBlank]
  have plain : Rendered (.text "a") ['a'] := .asParameter "a"
  have spells : Spells PlainInQuotes ['b', '\\', ',', '\\', '"'] "b,\"".toList :=
    .plain (by decide) (.escaped (.escaped .nil))
  have null : Rendered .null ['n', 'U', 'l', 'L'] := .null (by decide)
  have pair : Items Rendered 0
      ['\x7b', 'a', ' ', ',', '"', 'b', '\\', ',', '\\', '"', '"', '\x7d']
      [.array [.leaf (.text "a"), .leaf (.text "b,\"")]] :=
    .array blank blank <|
      (Items.element blank space plain).append (.element blank blank (.inQuotes spells))
  have empty : Items Rendered 0 ['\x7b', ' ', '\x7d'] [.array []] := .emptyArray blank blank space
  have nest := Items.array space line (pair.append (empty.append (.element space blank null)))
  have decoration := Decoration.dimensions (show '=' ∉ "0:1]".toList by decide)
  exact split_flattens_every_rendering ⟨[], _, _, by simp, decoration, nest, rfl⟩

end BankLedger.Sql.ArrayLiteral
