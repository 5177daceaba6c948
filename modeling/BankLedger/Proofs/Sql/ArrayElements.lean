import BankLedger.Proofs.Sql.ArrayGrammar
import BankLedger.Proofs.Text.Blank

/-!
# Reading the elements of array literals

The parts of a scan that know nothing of arrays: blanks, delimiters, and elements with and without
quotes.  An element that may be written in some way is read back from what is written, up to the
delimiter behind it, and whatever is read as an element was written in one of these ways.
-/

namespace BankLedger.Sql.ArrayLiteral

open BankLedger.Text

/-! ## Blanks and delimiters -/

theorem Blanks.nil : Blanks [] := by
  intro character member
  contradiction

theorem Blanks.append {before after : List Char} (first : Blanks before) (second : Blanks after) :
    Blanks (before ++ after) := by
  intro character member
  rcases List.mem_append.mp member with here | there
  · exact first character here
  · exact second character there

theorem skipBlanks_append {before : List Char} (blank : Blanks before) (text : List Char) :
    skipBlanks (before ++ text) = skipBlanks text :=
  List.dropWhile_append_of_pos blank

theorem skipBlanks_cons {character : Char} (solid : isAsciiBlank character = false)
    (rest : List Char) : skipBlanks (character :: rest) = character :: rest := by
  simp [skipBlanks, solid]

theorem exists_blanks (text : List Char) :
    ∃ before, Blanks before ∧ text = before ++ skipBlanks text :=
  ⟨text.takeWhile isAsciiBlank, List.all_eq_true.mp List.all_takeWhile,
    List.takeWhile_append_dropWhile.symm⟩

theorem skipBlanks_suffix (text : List Char) : skipBlanks text <:+ text :=
  List.dropWhile_suffix isAsciiBlank

theorem isAsciiBlank_of_skipBlanks {text rest : List Char} {character : Char}
    (skipped : skipBlanks text = character :: rest) : isAsciiBlank character = false := by
  have visible := List.head?_dropWhile_not isAsciiBlank text
  rw [skipBlanks] at skipped
  simpa only [skipped, List.head?_cons] using visible

theorem skipDelimiter_append {before : List Char} (blank : Blanks before) (text : List Char) :
    skipDelimiter (before ++ text) = skipDelimiter text := by
  rw [skipDelimiter, skipDelimiter, skipBlanks_append blank]

@[simp] theorem skipDelimiter_comma (next : List Char) : skipDelimiter (',' :: next) = .ok next :=
  rfl

@[simp] theorem skipDelimiter_brace (rest : List Char) :
    skipDelimiter ('\x7d' :: rest) = .ok ('\x7d' :: rest) :=
  rfl

/-- A text goes on with a delimiter: a comma, which is consumed, or a closing brace, which is
left. -/
theorem exists_of_skipDelimiter {text next : List Char}
    (delimited : skipDelimiter text = .ok next) :
    ∃ before, Blanks before ∧
      (text = before ++ ',' :: next ∨
        ∃ rest, next = '\x7d' :: rest ∧ text = before ++ '\x7d' :: rest) := by
  obtain ⟨before, blank, whole⟩ := exists_blanks text
  refine ⟨before, blank, ?_⟩
  unfold skipDelimiter at delimited
  split at delimited
  case h_1 rest comma =>
    cases delimited
    exact .inl (comma ▸ whole)
  case h_2 rest brace =>
    cases delimited
    exact .inr ⟨rest, rfl, brace ▸ whole⟩
  case h_3 => cases delimited

theorem suffix_of_skipDelimiter {text next : List Char}
    (delimited : skipDelimiter text = .ok next) : next <:+ text := by
  obtain ⟨before, _, rfl | ⟨rest, rfl, rfl⟩⟩ := exists_of_skipDelimiter delimited
  · exact (List.suffix_cons _ _).trans (List.suffix_append _ _)
  · exact List.suffix_append _ _

/-- What stands before a delimiter, less the blanks, ends right there. -/
theorem exists_stop_of_skipDelimiter {text next : List Char}
    (delimited : skipDelimiter text = .ok next) :
    ∃ before stop, Blanks before ∧ text = before ++ stop ∧ takeUnquoted stop = .ok ([], stop) ∧
      skipDelimiter stop = .ok next := by
  obtain ⟨before, blank, rfl | ⟨rest, rfl, rfl⟩⟩ := exists_of_skipDelimiter delimited
  · exact ⟨before, ',' :: next, blank, rfl, rfl, rfl⟩
  · exact ⟨before, '\x7d' :: rest, blank, rfl, rfl, rfl⟩

/-! ## Elements -/

theorem unescape_cons {character : Char} (other : character ≠ '\\') (rest : List Char) :
    unescape (character :: rest) = character :: unescape rest := by
  simp [unescape, other]

theorem unescape_of_unprotected {text : List Char} (unprotected : '\\' ∉ text) :
    unescape text = text := by
  induction text with
  | nil => rfl
  | cons character others inductionHypothesis =>
      rw [List.mem_cons, not_or] at unprotected
      rw [unescape_cons (Ne.symm unprotected.1), inductionHypothesis unprotected.2]

theorem takeQuoted_cons {character : Char} (plain : PlainInQuotes character) (rest : List Char) :
    takeQuoted (character :: rest) =
      (takeQuoted rest).map fun (written, after) => (character :: written, after) := by
  simp only [PlainInQuotes, List.mem_cons, List.not_mem_nil, or_false, not_or] at plain
  simp [takeQuoted, plain]

theorem takeUnquoted_cons {character : Char} (plain : PlainOutsideQuotes character)
    (rest : List Char) :
    takeUnquoted (character :: rest) =
      (takeUnquoted rest).map fun (written, after) => (character :: written, after) := by
  simp only [PlainOutsideQuotes, List.mem_cons, List.not_mem_nil, or_false, not_or] at plain
  simp [takeUnquoted, plain]

theorem plainOutsideQuotes_of_isAsciiBlank {character : Char}
    (blank : isAsciiBlank character = true) : PlainOutsideQuotes character := by
  simp only [isAsciiBlank, Bool.or_eq_true, beq_iff_eq] at blank
  rcases blank with (((rfl | rfl) | rfl) | rfl) | rfl <;> decide

/-- What is not blank is not a text of ASCII blanks. -/
theorem all_isAsciiBlank_eq_false {text : List Char}
    (solid : ∃ character ∈ text, isBlank character = false) : text.all isAsciiBlank = false := by
  obtain ⟨character, member, visible⟩ := solid
  rw [List.all_eq_false]
  refine ⟨character, member, fun blank => ?_⟩
  rw [isBlank_of_isAsciiBlank blank] at visible
  contradiction

namespace Spells

variable {plain : Char → Prop} {written text : List Char}

/-- Removing the backslashes gives what is spelled. -/
theorem unescape_eq (backslash : ¬plain '\\') (spells : Spells plain written text) :
    unescape written = text := by
  induction spells with
  | nil => rfl
  | @plain character written text allowed _ inductionHypothesis =>
      have other : character ≠ '\\' := by
        rintro rfl
        exact backslash allowed
      rw [unescape_cons other, inductionHypothesis]
  | escaped _ inductionHypothesis => rw [unescape, inductionHypothesis]

theorem append_plain (spells : Spells plain written text) {others : List Char}
    (allowed : ∀ character ∈ others, plain character) :
    Spells plain (written ++ others) (text ++ others) := by
  induction spells with
  | nil =>
      induction others with
      | nil => exact .nil
      | cons character others inductionHypothesis =>
          rw [List.forall_mem_cons] at allowed
          exact .plain allowed.1 (inductionHypothesis allowed.2)
  | plain here _ inductionHypothesis => exact .plain here inductionHypothesis
  | escaped _ inductionHypothesis => exact .escaped inductionHypothesis

/-- Leading blanks protect nothing, so what follows them is spelled on its own. -/
theorem of_skipBlanks (spells : Spells plain written text) :
    ∃ rest, Spells plain (skipBlanks written) rest := by
  induction spells with
  | nil => exact ⟨[], .nil⟩
  | @plain character written text allowed spells inductionHypothesis =>
      cases blank : isAsciiBlank character with
      | true =>
          have blanks : Blanks [character] := by simpa [Blanks] using blank
          rw [← List.singleton_append, skipBlanks_append blanks]
          exact inductionHypothesis
      | false =>
          rw [skipBlanks_cons blank]
          exact ⟨_, .plain allowed spells⟩
  | @escaped character written text spells _ =>
      rw [skipBlanks_cons (by decide)]
      exact ⟨_, .escaped spells⟩

/-- A quoted element ends at the first quote that is not protected. -/
theorem takeQuoted_append (spells : Spells PlainInQuotes written text) (rest : List Char) :
    takeQuoted (written ++ '"' :: rest) = some (written, rest) := by
  induction spells with
  | nil => rfl
  | plain allowed _ inductionHypothesis =>
      rw [List.cons_append, takeQuoted_cons allowed, inductionHypothesis, Option.map_some]
  | escaped _ inductionHypothesis =>
      simp only [List.cons_append, takeQuoted, inductionHypothesis, Option.map_some]

/-- An element without quotes ends at the first delimiter or closing brace that is not protected. -/
theorem takeUnquoted_append (spells : Spells PlainOutsideQuotes written text) {rest : List Char}
    (stops : takeUnquoted rest = .ok ([], rest)) :
    takeUnquoted (written ++ rest) = .ok (written, rest) := by
  induction spells with
  | nil => exact stops
  | plain allowed _ inductionHypothesis =>
      rw [List.cons_append, takeUnquoted_cons allowed, inductionHypothesis, Except.map]
  | escaped _ inductionHypothesis =>
      simp only [List.cons_append, takeUnquoted, inductionHypothesis, Except.map]

end Spells

/-- A character that starts no pair with a backslash is none. -/
theorem ne_backslash {character : Char} {rest : List Char}
    (notLast : character = '\\' → rest = [] → False)
    (notEscape : ∀ next after, character = '\\' → rest = next :: after → False) :
    character ≠ '\\' := by
  intro backslash
  cases rest with
  | nil => exact notLast backslash rfl
  | cons next after => exact notEscape next after backslash rfl

theorem spells_of_takeQuoted {text written rest : List Char}
    (taken : takeQuoted text = some (written, rest)) :
    text = written ++ '"' :: rest ∧ ∃ spelled, Spells PlainInQuotes written spelled := by
  fun_induction takeQuoted text generalizing written rest with
  | case1 => cases taken
  | case2 after =>
      cases taken
      exact ⟨rfl, [], .nil⟩
  | case3 => cases taken
  | case4 character after inductionHypothesis =>
      simp only [Option.map_eq_some_iff, Prod.mk.injEq, Prod.exists] at taken
      obtain ⟨inner, _, found, rfl, rfl⟩ := taken
      obtain ⟨rfl, spelled, spells⟩ := inductionHypothesis found
      exact ⟨rfl, _, .escaped spells⟩
  | case5 character after notQuote notLast notEscape inductionHypothesis =>
      simp only [Option.map_eq_some_iff, Prod.mk.injEq, Prod.exists] at taken
      obtain ⟨inner, _, found, rfl, rfl⟩ := taken
      have plain : PlainInQuotes character := by
        cases after <;> simp_all [PlainInQuotes]
      obtain ⟨rfl, spelled, spells⟩ := inductionHypothesis found
      exact ⟨rfl, _, .plain plain spells⟩

theorem spells_of_takeUnquoted {text written rest : List Char}
    (taken : takeUnquoted text = .ok (written, rest)) :
    ∃ spelled, Spells PlainOutsideQuotes written spelled := by
  fun_induction takeUnquoted text generalizing written rest with
  | case1 | case2 | case3 =>
      cases taken
      exact ⟨[], .nil⟩
  | case4 | case5 | case6 => cases taken
  | case7 character after inductionHypothesis =>
      cases found : takeUnquoted after with
      | error stop => simp [found, Except.map] at taken
      | ok pair =>
          simp only [found, Except.map, Except.ok.injEq, Prod.mk.injEq] at taken
          obtain ⟨rfl, rfl⟩ := taken
          obtain ⟨spelled, spells⟩ := inductionHypothesis found
          exact ⟨_, .escaped spells⟩
  | case8 character after _ _ _ _ _ _ inductionHypothesis =>
      cases found : takeUnquoted after with
      | error stop => simp [found, Except.map] at taken
      | ok pair =>
          simp only [found, Except.map, Except.ok.injEq, Prod.mk.injEq] at taken
          obtain ⟨rfl, rfl⟩ := taken
          have plain : PlainOutsideQuotes character := by
            cases after <;> simp_all [PlainOutsideQuotes]
          obtain ⟨spelled, spells⟩ := inductionHypothesis found
          exact ⟨_, .plain plain spells⟩

theorem Spells.head {character : Char} {written text : List Char}
    (spells : Spells PlainOutsideQuotes (character :: written) text) :
    character ≠ '\x7b' ∧ character ≠ '\x7d' ∧ character ≠ '"' := by
  cases spells with
  | plain allowed _ =>
      simp only [PlainOutsideQuotes, List.mem_cons, List.not_mem_nil, or_false, not_or] at allowed
      exact ⟨allowed.2.1, allowed.2.2.1, allowed.2.2.2.1⟩
  | escaped _ => decide

theorem takeElement_of_ne {character : Char} (unquoted : character ≠ '"') (rest : List Char) :
    takeElement (character :: rest) =
      match takeUnquoted (character :: rest) with
      | .error stop => .error stop
      | .ok (written, after) =>
          if (trim written).isEmpty then .error (.unexpected after)
          else .ok (unquotedElement (trim written), after) := by
  unfold takeElement
  split
  case h_1 same => exact absurd (List.cons.inj same).1 unquoted
  case h_2 => rfl

/-- An element without quotes is read up to what stops it. -/
theorem takeElement_unquoted {character : Char} {written text rest : List Char}
    (spells : Spells PlainOutsideQuotes (character :: written) text)
    (solid : ∃ other ∈ character :: written, isBlank other = false)
    (stops : takeUnquoted rest = .ok ([], rest)) :
    takeElement (character :: written ++ rest) =
      .ok (unquotedElement (trim (character :: written)), rest) := by
  have notBlank : ¬(trim (character :: written)).isEmpty = true := by
    rw [isEmpty_trim]
    intro blank
    obtain ⟨other, member, visible⟩ := solid
    rw [blank other member] at visible
    contradiction
  have taken := spells.takeUnquoted_append stops
  rw [List.cons_append] at taken ⊢
  simp only [takeElement_of_ne spells.head.2.2, taken, if_neg notBlank]

/-- A text without quotes that is not blank, less the blanks in front of it. -/
theorem Spells.exists_core {text spelled : List Char}
    (spells : Spells PlainOutsideQuotes text spelled)
    (solid : ∃ character ∈ text, isBlank character = false) :
    ∃ front character others rest, Blanks front ∧ text = front ++ character :: others ∧
      isAsciiBlank character = false ∧ Spells PlainOutsideQuotes (character :: others) rest ∧
      ∃ other ∈ character :: others, isBlank other = false := by
  obtain ⟨front, blank, whole⟩ := exists_blanks text
  obtain ⟨rest, spellsRest⟩ := spells.of_skipBlanks
  have solidRest : ∃ other ∈ skipBlanks text, isBlank other = false := by
    obtain ⟨other, member, visible⟩ := solid
    rw [whole] at member
    rcases List.mem_append.mp member with inFront | inRest
    · rw [isBlank_of_isAsciiBlank (blank other inFront)] at visible
      contradiction
    · exact ⟨other, inRest, visible⟩
  cases core : skipBlanks text with
  | nil =>
      rw [core] at solidRest
      obtain ⟨_, member, _⟩ := solidRest
      contradiction
  | cons character others =>
      rw [core] at whole spellsRest solidRest
      exact ⟨front, character, others, rest, blank, whole, isAsciiBlank_of_skipBlanks core,
        spellsRest, solidRest⟩

/-- An element that may be written so is read, with what follows it up to the next delimiter.  The
blanks behind a text without quotes are read with it, and then trimmed off. -/
theorem Readable.takeElement_append {element : Element} {text after rest next : List Char}
    (readable : Readable element text) (blank : Blanks after)
    (delimited : skipDelimiter rest = .ok next) :
    ∃ character others remaining,
      skipBlanks (text ++ (after ++ rest)) = character :: others ∧ character ≠ '\x7b' ∧
      character ≠ '\x7d' ∧ takeElement (character :: others) = .ok (element, remaining) ∧
      skipDelimiter remaining = .ok next := by
  cases readable with
  | @quoted written text spells =>
      have whole : '"' :: (written ++ ['"']) ++ (after ++ rest) =
          '"' :: (written ++ '"' :: (after ++ rest)) := by simp
      rw [whole]
      refine ⟨'"', _, after ++ rest, skipBlanks_cons (by decide) _, by decide, by decide, ?_, ?_⟩
      · simp only [takeElement, spells.takeQuoted_append, spells.unescape_eq (by decide)]
      · rw [skipDelimiter_append blank, delimited]
  | @unquoted _ spelled spells solid =>
      obtain ⟨front, character, others, core, blankFront, rfl, visible, spellsCore, solidCore⟩ :=
        spells.exists_core solid
      obtain ⟨behind, stop, blankBehind, rfl, stops, delimits⟩ :=
        exists_stop_of_skipDelimiter delimited
      have blankAfter : Blanks (after ++ behind) := blank.append blankBehind
      have spellsAll : Spells PlainOutsideQuotes (character :: (others ++ (after ++ behind))) _ :=
        spellsCore.append_plain fun other member =>
          plainOutsideQuotes_of_isAsciiBlank (blankAfter other member)
      have trimmed : trim (character :: (others ++ (after ++ behind))) =
          trim (front ++ character :: others) := by
        rw [← List.cons_append, trim_append_right solidCore fun other member =>
            isBlank_of_isAsciiBlank (blankAfter other member),
          trim_append_left fun other member => isBlank_of_isAsciiBlank (blankFront other member)]
      have solidAll : ∃ other ∈ character :: (others ++ (after ++ behind)),
          isBlank other = false := by
        obtain ⟨other, member, solid⟩ := solidCore
        exact ⟨other, List.mem_append_left (after ++ behind) member, solid⟩
      have taken := takeElement_unquoted spellsAll solidAll stops
      rw [trimmed] at taken
      refine ⟨character, others ++ (after ++ behind) ++ stop, stop, ?_, spellsCore.head.1,
        spellsCore.head.2.1, taken, delimits⟩
      rw [List.append_assoc, skipBlanks_append blankFront, List.cons_append,
        skipBlanks_cons visible]
      simp only [List.append_assoc]

end BankLedger.Sql.ArrayLiteral
