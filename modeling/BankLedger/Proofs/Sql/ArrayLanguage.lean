import BankLedger.Proofs.Sql.ArraySplit

/-!
# The language of array literals

The scanner does not remember whether an item or a comma came last.  A comma without an item before
it is refused all the same, since no element is blank; a comma right before a closing brace is not.
Nor is the closing bracket of a decoration looked for, only the equals sign behind it.  Apart from
such commas and brackets the scanner accepts the grammar and nothing else.  Both can be found in a
text without the grammar, so it is known of every text that is accepted whether it is a strict
literal: one in which every comma stands between two items and the decoration is in brackets.
-/

namespace BankLedger.Sql.ArrayLiteral

open BankLedger.Text

/-- The commas outside quotes that stand before a closing brace with at most blanks between them,
if a comma is pending or not, inside quotes or not. -/
def danglingCommas (quoted pending : Bool) : List Char → Nat
  | [] => 0
  | '\\' :: [] => 0
  | '\\' :: _ :: rest => danglingCommas quoted false rest
  | '"' :: rest => danglingCommas (!quoted) false rest
  | character :: rest =>
      if quoted then danglingCommas true false rest
      else if character == ',' then danglingCommas false true rest
      else if character == '\x7d' then pending.toNat + danglingCommas false false rest
      else danglingCommas false (pending && isAsciiBlank character) rest

/-- The commas of a literal that stand before a closing brace, its decoration left aside. -/
def danglingCommasOf (literal : String) : Nat :=
  danglingCommas false false ((dropDimensions? literal.toList).getD [])

/-- A decoration with both of its brackets, or none. -/
inductive Bracketed : List Char → Prop
  | none : Bracketed []
  | dimensions {text : List Char} : '=' ∉ text → Bracketed ('[' :: (text ++ [']', '=']))

/-- A literal in which every comma stands between two items and the decoration is in brackets. -/
def StrictLiteral (text : List Char) (members : List Tree) : Prop :=
  ∃ blanks decoration array, (∀ character ∈ blanks, isBlank character = true) ∧
    Bracketed decoration ∧ Items Readable 0 array [.array members] ∧
    text = blanks ++ (decoration ++ array)

/-- Whether a literal has a decoration whose bracket is not closed before the equals sign. -/
def leavesBracketOpen (literal : String) : Bool :=
  match trimStart literal.toList with
  | '[' :: rest => (rest.takeWhile (· != '=')).getLast? != some ']'
  | _ => false

section

variable {pending : Bool} {before written text rest : List Char}

theorem danglingCommas_plain {character : Char} (plain : PlainOutsideQuotes character) :
    danglingCommas false pending (character :: rest) =
      danglingCommas false (pending && isAsciiBlank character) rest := by
  simp only [PlainOutsideQuotes, List.mem_cons, List.not_mem_nil, or_false, not_or] at plain
  simp [danglingCommas, plain]

@[simp] theorem danglingCommas_comma :
    danglingCommas false pending (',' :: rest) = danglingCommas false true rest := by
  simp [danglingCommas]

@[simp] theorem danglingCommas_open :
    danglingCommas false pending ('\x7b' :: rest) = danglingCommas false false rest := by
  simp [danglingCommas, isAsciiBlank]

@[simp] theorem danglingCommas_close :
    danglingCommas false pending ('\x7d' :: rest) =
      pending.toNat + danglingCommas false false rest := by
  simp [danglingCommas]

theorem danglingCommas_quoted (spells : Spells PlainInQuotes written text) :
    danglingCommas true false (written ++ '"' :: rest) = danglingCommas false false rest := by
  induction spells with
  | nil => rfl
  | @plain character written text allowed _ inductionHypothesis =>
      simp only [PlainInQuotes, List.mem_cons, List.not_mem_nil, or_false, not_or] at allowed
      simp [danglingCommas, allowed, inductionHypothesis]
  | escaped _ inductionHypothesis =>
      simp only [List.cons_append, danglingCommas, inductionHypothesis]

theorem danglingCommas_unquoted (spells : Spells PlainOutsideQuotes written text) :
    danglingCommas false pending (written ++ rest) =
      danglingCommas false (pending && written.all isAsciiBlank) rest := by
  induction spells generalizing pending with
  | nil => simp
  | plain allowed _ inductionHypothesis =>
      rw [List.cons_append, danglingCommas_plain allowed, inductionHypothesis, List.all_cons,
        Bool.and_assoc]
  | @escaped character written text _ inductionHypothesis =>
      have visible : isAsciiBlank '\\' = false := by decide
      simp only [List.cons_append, danglingCommas, inductionHypothesis, List.all_cons, visible,
        Bool.false_and, Bool.and_false]

theorem danglingCommas_blanks (blank : Blanks before) :
    danglingCommas false pending (before ++ rest) = danglingCommas false pending rest := by
  induction before with
  | nil => rfl
  | cons character before inductionHypothesis =>
      rw [Blanks, List.forall_mem_cons] at blank
      rw [List.cons_append, danglingCommas_plain (plainOutsideQuotes_of_isAsciiBlank blank.1),
        blank.1, Bool.and_true, inductionHypothesis blank.2]

/-- After an element no comma is pending. -/
theorem Readable.danglingCommas_append {element : Element} (readable : Readable element written) :
    danglingCommas false pending (written ++ rest) = danglingCommas false false rest := by
  cases readable with
  | @quoted written text spells =>
      simp only [List.cons_append, List.append_assoc]
      exact danglingCommas_quoted spells
  | @unquoted _ text spells solid =>
      rw [danglingCommas_unquoted spells, all_isAsciiBlank_eq_false solid, Bool.and_false]

/-- The count of the grammar is the one made without it. -/
theorem Items.danglingCommas_append {dangling : Nat} {trees : List Tree}
    (items : Items Readable dangling text trees) :
    danglingCommas false pending (text ++ rest) = dangling + danglingCommas false false rest := by
  induction items generalizing pending rest with
  | element before after readable =>
      simp only [List.append_assoc, danglingCommas_blanks before,
        readable.danglingCommas_append, danglingCommas_blanks after, Nat.zero_add]
  | emptyArray before after inside =>
      simp [danglingCommas_blanks before, danglingCommas_blanks inside,
        danglingCommas_blanks after]
  | array before after items inductionHypothesis =>
      simp [danglingCommas_blanks before, inductionHypothesis, danglingCommas_blanks after]
  | danglingArray before after blanks items inductionHypothesis =>
      simp [danglingCommas_blanks before, inductionHypothesis, danglingCommas_blanks blanks,
        danglingCommas_blanks after, Nat.add_assoc]
  | append _ _ firstHypothesis secondHypothesis =>
      simp [firstHypothesis, secondHypothesis, Nat.add_assoc]

theorem danglingCommas_skipBlanks (text : List Char) :
    danglingCommas false pending (skipBlanks text) = danglingCommas false pending text := by
  obtain ⟨before, blank, whole⟩ := exists_blanks text
  calc
    danglingCommas false pending (skipBlanks text) =
        danglingCommas false pending (before ++ skipBlanks text) :=
      (danglingCommas_blanks blank).symm
    _ = danglingCommas false pending text := by rw [← whole]

end

theorem Literal.danglingCommasOf_eq {literal : String} {dangling : Nat} {members : List Tree}
    (written : Literal Readable dangling literal.toList members) :
    danglingCommasOf literal = dangling := by
  obtain ⟨blanks, decoration, array, blank, decorates, items, whole⟩ := written
  obtain ⟨before, inside, after, blankBefore, _, _, opens⟩ := items.exists_inside
  have started : skipBlanks array = '\x7b' :: (inside ++ '\x7d' :: after) := by
    rw [opens, skipBlanks_append blankBefore, skipBlanks_cons (by decide)]
  obtain ⟨body, dropped, startedBody⟩ := dropDimensions?_append blank decorates started
  have counted : danglingCommas false false (array ++ []) =
      dangling + danglingCommas false false [] := items.danglingCommas_append
  rw [danglingCommasOf, whole, dropped, Option.getD_some, ← danglingCommas_skipBlanks, startedBody,
    ← started, danglingCommas_skipBlanks, ← List.append_nil array, counted]
  rfl

theorem Bracketed.decoration {decoration : List Char} (bracketed : Bracketed decoration) :
    Decoration decoration := by
  cases bracketed with
  | none => exact .none
  | @dimensions text noEquals =>
      have whole : '[' :: (text ++ [']', '=']) = '[' :: (text ++ [']'] ++ ['=']) := by simp
      rw [whole]
      exact .dimensions (by simpa using noEquals)

theorem bracketed_dimensions_iff {text : List Char} (noEquals : '=' ∉ text) :
    Bracketed ('[' :: (text ++ ['='])) ↔ text.getLast? = some ']' := by
  rw [List.getLast?_eq_some_iff]
  constructor
  · intro bracketed
    generalize whole : '[' :: (text ++ ['=']) = decoration at bracketed
    cases bracketed with
    | none => cases whole
    | @dimensions inside =>
        refine ⟨inside, ?_⟩
        have same : text ++ ['='] = inside ++ [']'] ++ ['='] := by simpa using whole
        exact List.append_cancel_right same
  · rintro ⟨inside, rfl⟩
    rw [List.append_assoc]
    exact .dimensions fun member => noEquals (List.mem_append_left _ member)

/-- Looking for the bracket finds out whether the decoration is in brackets. -/
theorem leavesBracketOpen_iff {literal : String} {blanks decoration array rest : List Char}
    (blank : ∀ character ∈ blanks, isBlank character = true) (decorates : Decoration decoration)
    (started : skipBlanks array = '\x7b' :: rest)
    (whole : literal.toList = blanks ++ (decoration ++ array)) :
    leavesBracketOpen literal = false ↔ Bracketed decoration := by
  cases decorates with
  | none =>
      rw [leavesBracketOpen, whole, List.nil_append, trimStart_append_array blank started]
      exact iff_of_true rfl .none
  | @dimensions text noEquals =>
      have taken : (text ++ '=' :: array).takeWhile (· != '=') = text := by
        rw [List.takeWhile_append_of_pos (ne_equals_of_not_mem noEquals),
          List.takeWhile_cons_of_neg (by simp), List.append_nil]
      rw [leavesBracketOpen, whole, trimStart_append_dimensions blank,
        bracketed_dimensions_iff noEquals]
      simp [taken]

/-- A text is a strict literal exactly if it is a literal with no comma before a closing brace and
no open bracket. -/
theorem exists_strictLiteral_iff (literal : String) :
    (∃ members, StrictLiteral literal.toList members) ↔
      (∃ dangling members, Literal Readable dangling literal.toList members) ∧
        danglingCommasOf literal = 0 ∧ leavesBracketOpen literal = false := by
  have opens {array : List Char} {dangling : Nat} {members : List Tree}
      (items : Items Readable dangling array [.array members]) :
      ∃ rest, skipBlanks array = '\x7b' :: rest := by
    obtain ⟨before, inside, after, blankBefore, _, _, rfl⟩ := items.exists_inside
    exact ⟨_, by rw [skipBlanks_append blankBefore, skipBlanks_cons (by decide)]⟩
  constructor
  · rintro ⟨members, blanks, decoration, array, blank, bracketed, items, whole⟩
    have written : Literal Readable 0 literal.toList members :=
      ⟨blanks, decoration, array, blank, bracketed.decoration, items, whole⟩
    obtain ⟨rest, started⟩ := opens items
    exact ⟨⟨0, members, written⟩, written.danglingCommasOf_eq,
      (leavesBracketOpen_iff blank bracketed.decoration started whole).mpr bracketed⟩
  · rintro ⟨⟨dangling, members, written⟩, noComma, closed⟩
    rw [written.danglingCommasOf_eq] at noComma
    subst noComma
    obtain ⟨blanks, decoration, array, blank, decorates, items, whole⟩ := written
    obtain ⟨rest, started⟩ := opens items
    have bracketed := (leavesBracketOpen_iff blank decorates started whole).mp closed
    exact ⟨members, blanks, decoration, array, blank, bracketed, items, whole⟩

/-- The scanner accepts the literals of the grammar, those with commas before a closing brace and
with open brackets included, and no other text.  So a text that it accepts is a strict literal
exactly if it has no comma before a closing brace and no open bracket. -/
theorem accepts_literals_up_to_trailing_commas_and_open_brackets (literal : String) :
    ((∃ elements, split literal = .ok elements) ↔
      ∃ dangling members, Literal Readable dangling literal.toList members) ∧
    ((∃ members, StrictLiteral literal.toList members) ↔
      (∃ elements, split literal = .ok elements) ∧
        danglingCommasOf literal = 0 ∧ leavesBracketOpen literal = false) := by
  have accepted : (∃ elements, split literal = .ok elements) ↔
      ∃ dangling members, Literal Readable dangling literal.toList members := by
    constructor
    · rintro ⟨elements, split⟩
      obtain ⟨dangling, members, written, _⟩ := split_eq_ok_iff.mp split
      exact ⟨dangling, members, written⟩
    · rintro ⟨dangling, members, written⟩
      exact ⟨_, split_eq_ok_iff.mpr ⟨dangling, members, written, rfl⟩⟩
  refine ⟨accepted, ?_⟩
  rw [accepted]
  exact exists_strictLiteral_iff literal

/-- A comma behind the only item of an array is accepted, although no item follows it, and so are
dimensions that are not in brackets. -/
theorem trailing_comma_and_open_bracket_are_accepted :
    (split "\x7b1,\x7d" = .ok [.text "1"] ∧
      ¬∃ members, StrictLiteral "\x7b1,\x7d".toList members) ∧
    split "[1:2=\x7b1\x7d" = .ok [.text "1"] ∧
      ¬∃ members, StrictLiteral "[1:2=\x7b1\x7d".toList members := by
  refine ⟨⟨by decide +kernel, fun strict => ?_⟩, by decide +kernel, fun strict => ?_⟩
  · obtain ⟨_, noComma, _⟩ := (exists_strictLiteral_iff _).mp strict
    revert noComma
    decide
  · obtain ⟨_, _, closed⟩ := (exists_strictLiteral_iff _).mp strict
    revert closed
    decide

end BankLedger.Sql.ArrayLiteral
