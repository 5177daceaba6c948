import BankLedger.Proofs.Sql.ArrayScan

/-!
# Splitting array literals

A text is split exactly if it is a literal of the grammar, and its elements are the leaves from left
to right.  What is left to prove beside the scan concerns the ends of a literal: the blanks and the
decoration in front of it, and the blanks behind it.
-/

namespace BankLedger.Sql.ArrayLiteral

open BankLedger.Text

/-! ## Literals -/

theorem Items.ne_nil {written : Element → List Char → Prop} {dangling : Nat} {text : List Char}
    {trees : List Tree} (items : Items written dangling text trees) : trees ≠ [] := by
  induction items with
  | element | emptyArray | array | danglingArray => exact List.cons_ne_nil _ _
  | append _ _ inductionHypothesis =>
      intro empty
      exact inductionHypothesis (List.append_eq_nil_iff.mp empty).1

/-- A single item that is an array stands in braces. -/
theorem Items.exists_inside {dangling : Nat} {text : List Char} {members : List Tree}
    (items : Items Readable dangling text [.array members]) :
    ∃ before inside after, Blanks before ∧ Blanks after ∧ Inside dangling inside members ∧
      text = before ++ '\x7b' :: (inside ++ '\x7d' :: after) := by
  generalize single : [Tree.array members] = trees at items
  cases items with
  | element => cases single
  | emptyArray before after inside =>
      cases single
      exact ⟨_, _, _, before, after, .empty inside, rfl⟩
  | array before after items =>
      cases single
      exact ⟨_, _, _, before, after, .items items, rfl⟩
  | danglingArray before after blanks items =>
      cases single
      exact ⟨_, _, _, before, after, .dangling blanks items, by simp⟩
  | append first second =>
      have lengths := congrArg List.length single
      have positive := List.length_pos_iff.mpr first.ne_nil
      have positiveToo := List.length_pos_iff.mpr second.ne_nil
      simp only [List.length_singleton, List.length_append] at lengths
      omega

theorem splitBody_open {body rest : List Char}
    (started : skipBlanks body = '\x7b' :: rest) :
    splitBody body =
      match takeItems 0 rest with
      | .error stop => .error (stop.failure body)
      | .ok (elements, after) =>
          if (skipBlanks after).isEmpty then .ok elements
          else .error .trailingCharacters := by
  rw [splitBody, started]
  rfl

theorem splitBody_of_not_open {body : List Char}
    (unopened : ∀ rest, skipBlanks body ≠ '\x7b' :: rest) :
    splitBody body = .error .missingOpeningBrace := by
  rw [splitBody]
  split
  case h_1 rest started => exact absurd started (unopened rest)
  case h_2 => rfl

theorem splitBody_eq_ok_iff {body : List Char} {elements : List Element} :
    splitBody body = .ok elements ↔
      ∃ rest after, skipBlanks body = '\x7b' :: rest ∧ takeItems 0 rest = .ok (elements, after) ∧
        skipBlanks after = [] := by
  constructor
  · intro accepted
    unfold splitBody at accepted
    split at accepted
    case h_1 rest started =>
      cases taken : takeItems 0 rest with
      | error stop =>
          rw [taken] at accepted
          cases accepted
      | ok outcome =>
          rw [taken] at accepted
          dsimp only at accepted
          split at accepted
          case isTrue ended =>
            cases accepted
            exact ⟨rest, outcome.2, started, taken, List.isEmpty_iff.mp ended⟩
          case isFalse => cases accepted
    case h_2 => cases accepted
  · rintro ⟨rest, after, started, taken, ended⟩
    unfold splitBody
    split
    case h_1 others found =>
      obtain rfl := (List.cons.inj (started.symm.trans found)).2
      simp only [taken, ended, List.isEmpty_nil, if_true]
    case h_2 other => exact absurd started (other rest)

/-! ### Decorations -/

theorem trimStart_append {blanks : List Char}
    (blank : ∀ character ∈ blanks, isBlank character = true) {character : Char}
    (visible : isBlank character = false) (rest : List Char) :
    trimStart (blanks ++ character :: rest) = character :: rest := by
  rw [trimStart, List.dropWhile_append_of_pos blank, List.dropWhile_cons_of_neg (by simp [visible])]

/-- An array without a decoration starts with its brace. -/
theorem trimStart_append_array {blanks array rest : List Char}
    (blank : ∀ character ∈ blanks, isBlank character = true)
    (started : skipBlanks array = '\x7b' :: rest) :
    trimStart (blanks ++ array) = '\x7b' :: rest := by
  obtain ⟨before, blankBefore, whole⟩ := exists_blanks array
  have blankAll : ∀ character ∈ blanks ++ before, isBlank character = true := by
    intro character member
    rcases List.mem_append.mp member with inBlanks | inBefore
    · exact blank character inBlanks
    · exact isBlank_of_isAsciiBlank (blankBefore character inBefore)
  rw [whole, started, ← List.append_assoc, trimStart_append blankAll (by decide)]

/-- An array with dimensions starts with them. -/
theorem trimStart_append_dimensions {blanks : List Char}
    (blank : ∀ character ∈ blanks, isBlank character = true) (text array : List Char) :
    trimStart (blanks ++ ('[' :: (text ++ ['=']) ++ array)) = '[' :: (text ++ '=' :: array) := by
  rw [List.cons_append, trimStart_append blank (by decide), List.append_assoc,
    List.singleton_append]

theorem ne_equals_of_not_mem {text : List Char} (noEquals : '=' ∉ text) :
    ∀ character ∈ text, (character != '=') = true := by
  intro character member
  rw [bne_iff_ne]
  rintro rfl
  exact noEquals member

theorem dropDimensions?_of_not_decorated {text : List Char}
    (undecorated : ∀ rest, trimStart text ≠ '[' :: rest) :
    dropDimensions? text = some (trimStart text) := by
  rw [dropDimensions?]
  split
  case h_1 rest started => exact absurd started (undecorated rest)
  case h_2 => rfl

theorem dropDimensions?_of_decorated {text rest : List Char}
    (decorated : trimStart text = '[' :: rest) :
    dropDimensions? text =
      if '=' ∈ rest then some ((rest.dropWhile (· != '=')).drop 1) else none := by
  simp only [dropDimensions?, decorated, List.contains_iff_mem]

theorem dropDimensions?_append {blanks decoration array rest : List Char}
    (blank : ∀ character ∈ blanks, isBlank character = true) (decorates : Decoration decoration)
    (started : skipBlanks array = '\x7b' :: rest) :
    ∃ body, dropDimensions? (blanks ++ (decoration ++ array)) = some body ∧
      skipBlanks body = '\x7b' :: rest := by
  cases decorates with
  | none =>
      refine ⟨'\x7b' :: rest, ?_, skipBlanks_cons (by decide) rest⟩
      rw [dropDimensions?, List.nil_append, trimStart_append_array blank started]
      rfl
  | @dimensions text noEquals =>
      have dropped : (text ++ '=' :: array).dropWhile (· != '=') = '=' :: array := by
        rw [List.dropWhile_append_of_pos (ne_equals_of_not_mem noEquals),
          List.dropWhile_cons_of_neg (by simp)]
      refine ⟨array, ?_, started⟩
      rw [dropDimensions?, trimStart_append_dimensions blank]
      simp [dropped]

theorem dropWhile_ne_of_mem {character : Char} {text : List Char} (member : character ∈ text) :
    text.dropWhile (· != character) =
      character :: (text.dropWhile (· != character)).drop 1 := by
  cases found : text.dropWhile (· != character) with
  | nil =>
      have differs := List.dropWhile_eq_nil_iff.mp found character member
      simp at differs
  | cons first rest =>
      have stops := List.head?_dropWhile_not (· != character) text
      simp only [found, List.head?_cons, bne_eq_false_iff_eq] at stops
      rw [stops, List.drop_one, List.tail_cons]

theorem exists_of_dropDimensions? {text body : List Char}
    (dropped : dropDimensions? text = some body) :
    ∃ blanks decoration, (∀ character ∈ blanks, isBlank character = true) ∧
      Decoration decoration ∧ text = blanks ++ (decoration ++ body) := by
  have blank : ∀ character ∈ text.takeWhile isBlank, isBlank character = true :=
    fun _ member => List.mem_takeWhile_imp member
  have whole := takeWhile_append_trimStart text
  rw [dropDimensions?] at dropped
  split at dropped
  case h_1 rest started =>
    split at dropped
    case isTrue equals =>
      cases dropped
      refine ⟨_, '[' :: (rest.takeWhile (· != '=') ++ ['=']), blank, .dimensions ?_, ?_⟩
      · intro member
        have differs := List.mem_takeWhile_imp member
        simp at differs
      · have equalsMember : '=' ∈ rest := by simpa using equals
        have restored : '[' :: (rest.takeWhile (· != '=') ++ ['=']) ++
            (rest.dropWhile (· != '=')).drop 1 = trimStart text := by
          rw [started, List.cons_append, List.append_assoc, List.singleton_append,
            ← dropWhile_ne_of_mem equalsMember, List.takeWhile_append_dropWhile]
        rw [restored, whole]
    case isFalse => cases dropped
  case h_2 =>
    cases dropped
    exact ⟨_, [], blank, .none, whole.symm⟩

/-- A text is split exactly if it is a literal, and its elements are the leaves from left to
right. -/
theorem split_eq_ok_iff {literal : String} {elements : List Element} :
    split literal = .ok elements ↔
      ∃ dangling members, Literal Readable dangling literal.toList members ∧
        elements = leavesOfAll members := by
  constructor
  · intro accepted
    rw [split] at accepted
    cases dropped : dropDimensions? literal.toList with
    | none =>
        rw [dropped] at accepted
        cases accepted
    | some body =>
        rw [dropped] at accepted
        obtain ⟨rest, after, started, taken, ended⟩ := splitBody_eq_ok_iff.mp accepted
        obtain ⟨blanks, decoration, blank, decorates, whole⟩ := exists_of_dropDimensions? dropped
        obtain ⟨before, blankBefore, wholeBody⟩ := exists_blanks body
        obtain ⟨behind, blankBehind, wholeAfter⟩ := exists_blanks after
        obtain ⟨dangling, inside, members, remaining, stands, rfl, rfl, rfl⟩ :=
          closes_of_takeItems taken
        rw [ended, List.append_nil] at wholeAfter
        subst wholeAfter
        refine ⟨dangling, members, ⟨blanks, decoration, body, blank, decorates, ?_, whole⟩, rfl⟩
        rw [wholeBody, started]
        exact stands.array blankBefore blankBehind
  · rintro ⟨dangling, members, ⟨blanks, decoration, array, blank, decorates, items, whole⟩, rfl⟩
    obtain ⟨before, inside, after, blankBefore, blankAfter, stands, rfl⟩ := items.exists_inside
    have started : skipBlanks (before ++ '\x7b' :: (inside ++ '\x7d' :: after)) =
        '\x7b' :: (inside ++ '\x7d' :: after) := by
      rw [skipBlanks_append blankBefore, skipBlanks_cons (by decide)]
    obtain ⟨body, dropped, startedBody⟩ := dropDimensions?_append blank decorates started
    rw [split, whole, dropped]
    refine splitBody_eq_ok_iff.mpr ⟨_, after, startedBody, ?_, ?_⟩
    · rw [stands.takeItems_append, takeItems_close_zero (skipBlanks_cons (by decide) after)]
      simp [prepend, Except.map]
    · rw [← List.append_nil after, skipBlanks_append blankAfter]
      rfl

end BankLedger.Sql.ArrayLiteral
