import BankLedger.Proofs.Sql.WireRoundTrip

/-!
# Escapes without quotes

A text can stand in an array literal without quotes if a backslash protects each character of it
that means something there.  What is read is cut at the delimiter and trimmed before the backslashes
are removed, and trimming knows nothing of backslashes: a protected blank at the end is cut off, and
the backslash before it protects nothing any more.  Every other character of the text is kept, and
so is a text that spells a null.
-/

namespace BankLedger.Sql.ArrayLiteral

open BankLedger.Text

/-! ## Texts with escapes -/

/-- A character with a backslash before it if it means something in an array literal. -/
def protect (character : Char) : List Char :=
  if isArraySpecial character then ['\\', character] else [character]

/-- A text as an element without quotes.  A text that spells a null is protected as a whole by a
backslash before its first character. -/
def escapeUnquoted (text : List Char) : List Char :=
  if spellsNull text then '\\' :: text.flatMap protect else text.flatMap protect

/-- A text as an element without quotes. -/
def escapedText (text : String) : String :=
  String.ofList (escapeUnquoted text.toList)

/-- Whether a text ends with a blank. -/
def endsBlank (text : List Char) : Bool :=
  text.getLast?.any isBlank

/-- The text without a blank at its end. -/
def dropLastBlank (text : List Char) : List Char :=
  if endsBlank text then text.dropLast else text

theorem isArraySpecial_of_isBlank {character : Char} (blank : isBlank character = true) :
    isArraySpecial character = true := by
  rw [isArraySpecial, blank, Bool.or_true]

/-- A letter of a text that spells a null means nothing by itself. -/
theorem not_special_of_spellsNull {text : List Char} (null : spellsNull text = true)
    {character : Char} (member : character ∈ text) : isArraySpecial character = false := by
  have letter : character.toUpper ∈ text.map Char.toUpper := List.mem_map_of_mem member
  rw [eq_of_beq null] at letter
  obtain ⟨plain, visible⟩ := plain_of_toUpper rfl (by simpa using letter)
  simpa [isArraySpecial, PlainOutsideQuotes, and_assoc, and_left_comm] using
    And.intro plain visible

theorem flatMap_protect_eq_self {text : List Char}
    (ordinary : ∀ character ∈ text, isArraySpecial character = false) :
    text.flatMap protect = text := by
  induction text with
  | nil => rfl
  | cons character text inductionHypothesis =>
      rw [List.forall_mem_cons] at ordinary
      rw [List.flatMap_cons, inductionHypothesis ordinary.2, protect, ordinary.1]
      rfl

theorem spells_flatMap_protect (text : List Char) :
    Spells PlainOutsideQuotes (text.flatMap protect) text := by
  induction text with
  | nil => exact .nil
  | cons character text inductionHypothesis =>
      rw [List.flatMap_cons, protect]
      split
      case isTrue => exact .escaped inductionHypothesis
      case isFalse ordinary =>
        exact .plain (plain_of_not_special (eq_false_of_ne_true ordinary)).1 inductionHypothesis

theorem spells_escapeUnquoted (text : List Char) :
    Spells PlainOutsideQuotes (escapeUnquoted text) text := by
  rw [escapeUnquoted]
  split
  case isTrue null =>
    cases text with
    | nil => contradiction
    | cons first rest =>
        have same : (first :: rest).flatMap protect = first :: rest :=
          flatMap_protect_eq_self fun character member => not_special_of_spellsNull null member
        rw [same]
        apply Spells.escaped
        have plain := spells_flatMap_protect rest
        rwa [flatMap_protect_eq_self fun character member =>
          not_special_of_spellsNull null (List.mem_cons_of_mem first member)] at plain
  case isFalse => exact spells_flatMap_protect text

/-! ## Removing backslashes -/

section

variable {written text : List Char} (spells : Spells PlainOutsideQuotes written text)

include spells

/-- A text without backslashes spells itself. -/
theorem Spells.eq_of_unprotected (unprotected : '\\' ∉ written) : written = text := by
  induction spells with
  | nil => rfl
  | plain _ _ inductionHypothesis =>
      rw [inductionHypothesis fun member => unprotected (List.mem_cons_of_mem _ member)]
  | escaped => exact absurd List.mem_cons_self unprotected

/-- A backslash at the end protects nothing and is dropped. -/
theorem Spells.unescape_append_backslash : unescape (written ++ ['\\']) = text := by
  induction spells with
  | nil => rfl
  | @plain character written text allowed _ inductionHypothesis =>
      have other : character ≠ '\\' := by
        rintro rfl
        exact absurd allowed (by decide)
      rw [List.cons_append, unescape_cons other, inductionHypothesis]
  | escaped _ inductionHypothesis =>
      rw [List.cons_append, List.cons_append, unescape, inductionHypothesis]

end

/-! ## What is read -/

/-- A text with escapes starts with a backslash or with a character that means nothing. -/
theorem head_flatMap_protect (text : List Char) :
    ∀ first ∈ (text.flatMap protect).head?, isBlank first = false := by
  intro first same
  cases text with
  | nil => cases same
  | cons character rest =>
      rw [List.flatMap_cons, protect] at same
      split at same
      case isTrue =>
        cases same
        decide
      case isFalse ordinary =>
        cases same
        exact (plain_of_not_special (eq_false_of_ne_true ordinary)).2

theorem head_escapeUnquoted (text : List Char) :
    ∀ first ∈ (escapeUnquoted text).head?, isBlank first = false := by
  intro first same
  rw [escapeUnquoted] at same
  split at same
  case isTrue =>
    cases same
    decide
  case isFalse => exact head_flatMap_protect text first same

section

variable {text : List Char} (nonempty : text ≠ [])

include nonempty

theorem flatMap_protect_ne_nil : text.flatMap protect ≠ [] := by
  intro empty
  have spells := spells_flatMap_protect text
  rw [empty] at spells
  cases spells
  exact nonempty rfl

/-- What is written of a text that is not empty holds a character that is no blank. -/
theorem exists_solid_escapeUnquoted :
    ∃ character ∈ escapeUnquoted text, isBlank character = false := by
  have written : escapeUnquoted text ≠ [] := by
    rw [escapeUnquoted]
    split
    case isTrue => exact List.cons_ne_nil _ _
    case isFalse => exact flatMap_protect_ne_nil nonempty
  obtain ⟨first, rest, starts⟩ := List.exists_cons_of_ne_nil written
  refine ⟨first, ?_, ?_⟩
  · rw [starts]
    exact List.mem_cons_self
  · apply head_escapeUnquoted text
    rw [starts]
    rfl

/-- The last character is written last. -/
theorem getLast?_escapeUnquoted : (escapeUnquoted text).getLast? = text.getLast? := by
  have ends : (text.flatMap protect).getLast? = text.getLast? := by
    rw [← List.dropLast_concat_getLast nonempty, List.flatMap_append, List.flatMap_singleton,
      protect]
    split <;> simp
  rw [escapeUnquoted]
  split
  case isTrue =>
    rw [← List.singleton_append, List.getLast?_append_of_ne_nil _ (flatMap_protect_ne_nil nonempty),
      ends]
  case isFalse => exact ends

end

/-- A text that spells a null is not written so that it is read as one. -/
theorem not_null_escapeUnquoted (text : List Char) :
    ¬((!(escapeUnquoted text).contains '\\' && spellsNull (escapeUnquoted text)) = true) := by
  intro null
  rw [Bool.and_eq_true, Bool.not_eq_true', List.contains_eq_mem, decide_eq_false_iff_not] at null
  obtain ⟨unprotected, spelled⟩ := null
  have same := (spells_escapeUnquoted text).eq_of_unprotected unprotected
  rw [same] at spelled
  rw [escapeUnquoted, if_pos spelled] at unprotected
  exact unprotected List.mem_cons_self

/-- A text that ends with no blank is read as it is. -/
theorem unquotedElement_of_solid_end {text : List Char} (nonempty : text ≠ [])
    (solid : endsBlank text = false) :
    unquotedElement (trim (escapeUnquoted text)) = .text (String.ofList text) := by
  have trimmed : trim (escapeUnquoted text) = escapeUnquoted text := by
    apply trim_of_ends (head_escapeUnquoted text)
    intro last same
    rw [getLast?_escapeUnquoted nonempty] at same
    rw [endsBlank, same] at solid
    exact solid
  rw [trimmed, unquotedElement, if_neg (not_null_escapeUnquoted text),
    (spells_escapeUnquoted text).unescape_eq (by decide)]

/-- Of a text that ends with a blank, that blank is lost. -/
theorem unquotedElement_append_blank (front : List Char) {last : Char}
    (blank : isBlank last = true) :
    unquotedElement (trim (escapeUnquoted (front ++ [last]))) = .text (String.ofList front) := by
  have special := isArraySpecial_of_isBlank blank
  have notNull : ¬spellsNull (front ++ [last]) = true := by
    intro null
    rw [not_special_of_spellsNull null List.mem_concat_self] at special
    contradiction
  have written : escapeUnquoted (front ++ [last]) = front.flatMap protect ++ ['\\'] ++ [last] := by
    rw [escapeUnquoted, if_neg notNull, List.flatMap_append, List.flatMap_singleton, protect,
      if_pos special, List.append_assoc]
    rfl
  have backslash : '\\' ∈ front.flatMap protect ++ ['\\'] := List.mem_concat_self
  have kept : trim (front.flatMap protect ++ ['\\']) = front.flatMap protect ++ ['\\'] := by
    apply trim_of_ends
    · intro first same
      rw [List.head?_append] at same
      cases starts : (front.flatMap protect).head? with
      | none =>
          rw [starts] at same
          cases same
          decide
      | some other =>
          rw [starts] at same
          cases same
          exact head_flatMap_protect front first starts
    · intro final same
      rw [List.getLast?_concat] at same
      cases same
      decide
  -- The blank goes, and trimming stops at the backslash that protected it.
  have trimmed : trim (escapeUnquoted (front ++ [last])) = front.flatMap protect ++ ['\\'] := by
    rw [written, trim_append_right ⟨'\\', backslash, by decide⟩ (by simpa using blank), kept]
  rw [trimmed, unquotedElement, List.contains_iff_mem.mpr backslash,
    (spells_flatMap_protect front).unescape_append_backslash]
  rfl

/-- A text with escapes is read as the text without a blank at its end. -/
theorem readable_escapeUnquoted {text : List Char} (nonempty : text ≠ []) :
    Readable (.text (String.ofList (dropLastBlank text))) (escapeUnquoted text) := by
  have readable : Readable (unquotedElement (trim (escapeUnquoted text))) (escapeUnquoted text) :=
    .unquoted (spells_escapeUnquoted text) (exists_solid_escapeUnquoted nonempty)
  have element : unquotedElement (trim (escapeUnquoted text)) =
      .text (String.ofList (dropLastBlank text)) := by
    rw [dropLastBlank]
    split
    case isTrue blank =>
      rw [endsBlank, List.getLast?_eq_some_getLast nonempty] at blank
      have lost := unquotedElement_append_blank text.dropLast blank
      rwa [List.dropLast_concat_getLast nonempty] at lost
    case isFalse solid =>
      exact unquotedElement_of_solid_end nonempty (eq_false_of_ne_true solid)
  rwa [element] at readable

/-! ## Whole literals -/

/-- The element that is read of a text with escapes. -/
def withoutLastBlank (text : String) : String :=
  String.ofList (dropLastBlank text.toList)

theorem split_escapedTexts {texts : List String} (nonempty : ∀ text ∈ texts, text ≠ "") :
    split (Value.braced (texts.map escapedText)) =
      .ok ((texts.map withoutLastBlank).map .text) := by
  apply split_braced
  intro text member
  rw [escapedText, String.toList_ofList]
  apply readable_escapeUnquoted
  intro empty
  exact nonempty text member (String.toList_eq_nil_iff.mp empty)

theorem withoutLastBlank_eq_self_iff {text : String} (nonempty : text ≠ "") :
    withoutLastBlank text = text ↔ endsBlank text.toList = false := by
  rw [withoutLastBlank, dropLastBlank]
  constructor
  · intro same
    rw [← Bool.not_eq_true]
    intro blank
    rw [if_pos blank] at same
    have lengths := congrArg (fun kept => kept.toList.length) same
    simp only [String.toList_ofList, List.length_dropLast] at lengths
    have some : 0 < text.toList.length := by
      rw [List.length_pos_iff]
      intro empty
      exact nonempty (String.toList_eq_nil_iff.mp empty)
    omega
  · intro solid
    rw [solid, if_neg Bool.false_ne_true, String.ofList_toList]

/-- A backslash protects every character of an element without quotes but a blank at its end.  Let
some texts, none of them empty, be written without quotes, with a backslash before each brace,
comma, quote, backslash and blank and before a text that spells a null, and with commas between them
in braces.  Splitting gives each of the texts without the blank at its end, if it ends with one, and
no null.  So it gives the texts themselves exactly if none of them ends with a blank. -/
theorem escapes_protect_all_but_a_last_blank (texts : List String)
    (nonempty : ∀ text ∈ texts, text ≠ "") :
    split (Value.braced (texts.map escapedText)) =
      .ok ((texts.map withoutLastBlank).map .text) ∧
    (split (Value.braced (texts.map escapedText)) = .ok (texts.map .text) ↔
      ∀ text ∈ texts, endsBlank text.toList = false) := by
  refine ⟨split_escapedTexts nonempty, ?_⟩
  rw [split_escapedTexts nonempty, Except.ok.injEq, List.map_map, List.map_inj_left]
  constructor
  · intro same text member
    have kept := Element.text.inj (same text member)
    exact (withoutLastBlank_eq_self_iff (nonempty text member)).mp kept
  · intro solid text member
    exact congrArg Element.text
      ((withoutLastBlank_eq_self_iff (nonempty text member)).mpr (solid text member))

/-- A null, blanks at both ends, a wide blank, and all characters with a meaning. -/
theorem escapes_protect_all_but_a_last_blank_of_odd_texts :
    let texts := ["nUlL", " \t", "a\u3000", "\x7b,\"\\\x7d", " b"]
    split (Value.braced (texts.map escapedText)) =
      .ok [.text "nUlL", .text " ", .text "a", .text "\x7b,\"\\\x7d", .text " b"] ∧
    (split (Value.braced (texts.map escapedText)) = .ok (texts.map .text) ↔
      ∀ text ∈ texts, endsBlank text.toList = false) := by
  intro texts
  exact escapes_protect_all_but_a_last_blank texts (by decide)

/-- A blank at the end is lost although a backslash protects it. -/
theorem protected_last_blank_is_lost :
    let texts := ["a "]
    Value.braced (texts.map escapedText) = "\x7ba\\ \x7d" ∧
    split "\x7ba\\ \x7d" = .ok [.text "a"] ∧ [Element.text "a"] ≠ texts.map .text := by
  refine ⟨by decide, by decide +kernel, ?_⟩
  intro same
  exact absurd (Element.text.inj (List.cons.inj same).1) (by decide)

end BankLedger.Sql.ArrayLiteral
