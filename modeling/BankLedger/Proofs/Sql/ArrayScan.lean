import BankLedger.Proofs.Sql.ArrayElements

/-!
# Scanning arrays

The scan is flat: it counts the arrays that it is inside of and keeps no other record of them.  Two
facts relate it to the nested grammar.  Items are read in one sweep, whatever the depth, and the
scan goes on after the delimiter behind them.  And a scan that succeeds has first closed the
innermost array, and has then gone on as if that array had never been open.
-/

namespace BankLedger.Sql.ArrayLiteral

open BankLedger.Text

/-- Blanks may follow items. -/
theorem Items.append_blanks {written : Element → List Char → Prop} {dangling : Nat}
    {text blanks : List Char} {trees : List Tree} (items : Items written dangling text trees)
    (blank : Blanks blanks) : Items written dangling (text ++ blanks) trees := by
  induction items with
  | element before after element =>
      rw [List.append_assoc]
      exact .element before (after.append blank) element
  | emptyArray before after inside =>
      simp only [List.append_assoc, List.cons_append]
      exact .emptyArray before (after.append blank) inside
  | array before after items =>
      simp only [List.append_assoc, List.cons_append]
      exact .array before (after.append blank) items
  | danglingArray before after inside items =>
      simp only [List.append_assoc, List.cons_append]
      exact .danglingArray before (after.append blank) inside items
  | append first _ _ inductionHypothesis =>
      rw [List.append_assoc, List.cons_append]
      exact .append first inductionHypothesis

/-! ## Scanning forward -/

/-- The outcome of a scan with some elements put in front. -/
def prepend (elements : List Element) (outcome : Except Stop (List Element × List Char)) :
    Except Stop (List Element × List Char) :=
  outcome.map fun (others, last) => (elements ++ others, last)

@[simp] theorem prepend_nil (outcome : Except Stop (List Element × List Char)) :
    prepend [] outcome = outcome := by
  cases outcome <;> rfl

@[simp] theorem prepend_prepend (elements others : List Element)
    (outcome : Except Stop (List Element × List Char)) :
    prepend elements (prepend others outcome) = prepend (elements ++ others) outcome := by
  cases outcome with
  | error stop => rfl
  | ok pair => simp [prepend, Except.map]

section

variable {text rest : List Char}

theorem takeItems_nil (ended : skipBlanks text = []) (depth : Nat) :
    takeItems depth text = .error (.unexpected []) := by
  rw [takeItems]
  split <;> simp_all

theorem takeItems_open (opened : skipBlanks text = '\x7b' :: rest) (depth : Nat) :
    takeItems depth text = takeItems (depth + 1) rest := by
  rw [takeItems]
  split <;> simp_all

theorem takeItems_close_zero (closed : skipBlanks text = '\x7d' :: rest) :
    takeItems 0 text = .ok ([], rest) := by
  rw [takeItems]
  split <;> simp_all

theorem takeItems_close_succ (closed : skipBlanks text = '\x7d' :: rest) (outer : Nat) :
    takeItems (outer + 1) text = (skipDelimiter rest).bind (takeItems outer) := by
  rw [takeItems]
  split
  case h_3 after found =>
    rw [closed] at found
    obtain rfl := (List.cons.inj found).2
    split
    case h_1 same => cases same
    case h_2 depth deeper same =>
      obtain rfl := Nat.succ.inj same
      split
      · next stop failed => rw [failed]; rfl
      · next delimited => rw [delimited]; rfl
  all_goals simp_all

theorem takeItems_element {character : Char} (started : skipBlanks text = character :: rest)
    (notOpen : character ≠ '\x7b') (notClose : character ≠ '\x7d') (depth : Nat) :
    takeItems depth text =
      (takeElement (character :: rest)).bind fun (element, after) =>
        (skipDelimiter after).bind fun next => prepend [element] (takeItems depth next) := by
  rw [takeItems]
  split
  case h_1 ended => cases started.symm.trans ended
  case h_2 opened => exact absurd (List.cons.inj (started.symm.trans opened)).1 notOpen
  case h_3 closed => exact absurd (List.cons.inj (started.symm.trans closed)).1 notClose
  case h_4 first others _ _ found =>
    rw [started] at found
    obtain ⟨rfl, rfl⟩ := List.cons.inj found
    split
    · next failed => rw [failed]; rfl
    · next element after taken =>
      rw [taken]
      dsimp only [Except.bind]
      split
      · next failed => rw [failed]
      · next next delimited =>
        rw [delimited]
        dsimp only
        cases takeItems depth next <;> rfl

theorem exists_of_takeItems_element {character : Char} {depth : Nat} {elements : List Element}
    {last : List Char} (started : skipBlanks text = character :: rest)
    (notOpen : character ≠ '\x7b') (notClose : character ≠ '\x7d')
    (taken : takeItems depth text = .ok (elements, last)) :
    ∃ element after next others, takeElement (character :: rest) = .ok (element, after) ∧
      skipDelimiter after = .ok next ∧ takeItems depth next = .ok (others, last) ∧
      elements = element :: others := by
  rw [takeItems_element started notOpen notClose] at taken
  cases read : takeElement (character :: rest) with
  | error stop =>
      rw [read] at taken
      cases taken
  | ok pair =>
      obtain ⟨element, after⟩ := pair
      rw [read] at taken
      dsimp only [Except.bind] at taken
      cases delimited : skipDelimiter after with
      | error stop =>
          rw [delimited] at taken
          cases taken
      | ok next =>
          rw [delimited] at taken
          dsimp only at taken
          cases later : takeItems depth next with
          | error stop =>
              rw [later] at taken
              cases taken
          | ok outcome =>
              rw [later] at taken
              cases taken
              exact ⟨element, after, next, outcome.1, rfl, delimited, later, rfl⟩

end

section

variable {depth dangling : Nat} {before inside after text rest next : List Char}

theorem takeItems_opening (blank : Blanks before) (depth : Nat) (body : List Char) :
    takeItems depth (before ++ '\x7b' :: body) = takeItems (depth + 1) body := by
  apply takeItems_open
  rw [skipBlanks_append blank, skipBlanks_cons (by decide)]

theorem takeItems_closing (blank : Blanks inside) (blankAfter : Blanks after)
    (delimited : skipDelimiter rest = .ok next) (depth : Nat) :
    takeItems (depth + 1) (inside ++ '\x7d' :: (after ++ rest)) = takeItems depth next := by
  have closed : skipBlanks (inside ++ '\x7d' :: (after ++ rest)) = '\x7d' :: (after ++ rest) := by
    rw [skipBlanks_append blank, skipBlanks_cons (by decide)]
  rw [takeItems_close_succ closed, skipDelimiter_append blankAfter, delimited]
  rfl

theorem takeItems_brace (blank : Blanks inside) (depth : Nat) :
    takeItems depth (inside ++ '\x7d' :: rest) = takeItems depth ('\x7d' :: rest) := by
  have closed : skipBlanks (inside ++ '\x7d' :: rest) = '\x7d' :: rest := by
    rw [skipBlanks_append blank, skipBlanks_cons (by decide)]
  cases depth with
  | zero => rw [takeItems_close_zero closed, takeItems_close_zero (skipBlanks_cons (by decide) _)]
  | succ outer =>
      rw [takeItems_close_succ closed, takeItems_close_succ (skipBlanks_cons (by decide) _)]

/-- Items are read in one sweep at any depth, up to the delimiter that follows them. -/
theorem Items.takeItems_append {trees : List Tree} (items : Items Readable dangling text trees)
    (delimited : skipDelimiter rest = .ok next) (depth : Nat) :
    takeItems depth (text ++ rest) = prepend (leavesOfAll trees) (takeItems depth next) := by
  induction items generalizing depth rest next with
  | @element before text after element blank blankAfter readable =>
      obtain ⟨character, others, remaining, started, notOpen, notClose, taken, delimits⟩ :=
        readable.takeElement_append blankAfter delimited
      have startedToo : skipBlanks (before ++ text ++ after ++ rest) = character :: others := by
        simp only [List.append_assoc, skipBlanks_append blank, started]
      rw [takeItems_element startedToo notOpen notClose, taken]
      dsimp only [Except.bind]
      rw [delimits]
      rfl
  | @emptyArray before inside after blank blankAfter blankInside =>
      simp only [List.append_assoc, List.cons_append, takeItems_opening blank,
        takeItems_closing blankInside blankAfter delimited]
      exact (prepend_nil _).symm
  | @array dangling before inside after members blank blankAfter items inductionHypothesis =>
      simp only [List.append_assoc, List.cons_append, takeItems_opening blank]
      rw [inductionHypothesis (skipDelimiter_brace _),
        ← takeItems_closing Blanks.nil blankAfter delimited]
      simp [leavesOfAll, Tree.leaves]
  | @danglingArray dangling before inside blanks after members blank blankAfter blankInside items
      inductionHypothesis =>
      simp only [List.append_assoc, List.cons_append, takeItems_opening blank]
      rw [inductionHypothesis (skipDelimiter_comma _),
        takeItems_closing blankInside blankAfter delimited]
      simp [leavesOfAll, Tree.leaves]
  | @append dangling others first second trees more _ _ firstHypothesis secondHypothesis =>
      rw [List.append_assoc, List.cons_append, firstHypothesis (skipDelimiter_comma _),
        secondHypothesis delimited, prepend_prepend, leavesOfAll_append]

/-! ## Scanning backward -/

/-- What may stand in an array up to its closing brace. -/
inductive Inside : Nat → List Char → List Tree → Prop
  | empty {text : List Char} : Blanks text → Inside 0 text []
  | items {dangling : Nat} {text : List Char} {trees : List Tree} :
      Items Readable dangling text trees → Inside dangling text trees
  | dangling {dangling : Nat} {text blanks : List Char} {trees : List Tree} : Blanks blanks →
      Items Readable dangling text trees → Inside (dangling + 1) (text ++ ',' :: blanks) trees

namespace Inside

variable {trees members : List Tree}

/-- In braces it is an array. -/
theorem array (inside : Inside dangling text members) (blank : Blanks before)
    (blankAfter : Blanks after) :
    Items Readable dangling (before ++ '\x7b' :: (text ++ '\x7d' :: after)) [.array members] := by
  cases inside with
  | empty blankInside => exact .emptyArray blank blankAfter blankInside
  | items items => exact .array blank blankAfter items
  | dangling blanks items =>
      rw [List.append_assoc, List.cons_append]
      exact .danglingArray blank blankAfter blanks items

/-- With items and a comma in front it may stand in an array still. -/
theorem append (inside : Inside dangling text members) {others : Nat} {first : List Char}
    (items : Items Readable others first trees) :
    ∃ total, Inside total (first ++ ',' :: text) (trees ++ members) := by
  cases inside with
  | empty blank =>
      rw [List.append_nil]
      exact ⟨others + 1, .dangling blank items⟩
  | items more => exact ⟨_, .items (items.append more)⟩
  | dangling blanks more =>
      rw [← List.cons_append, ← List.append_assoc]
      exact ⟨_, .dangling blanks (items.append more)⟩

/-- It is read up to the closing brace. -/
theorem takeItems_append (inside : Inside dangling text members) (depth : Nat) :
    takeItems depth (text ++ '\x7d' :: rest) =
      prepend (leavesOfAll members) (takeItems depth ('\x7d' :: rest)) := by
  cases inside with
  | empty blank =>
      rw [takeItems_brace blank]
      exact (prepend_nil _).symm
  | items items => exact items.takeItems_append (skipDelimiter_brace rest) depth
  | dangling blanks items =>
      rw [List.append_assoc, List.cons_append,
        items.takeItems_append (skipDelimiter_comma _) depth, takeItems_brace blanks]

end Inside

end

/-- What a scan has read that ended at some depth: the rest of the innermost array, and then, if
there is an array around it, what a scan at that depth reads after the delimiter. -/
def Closes (depth : Nat) (text : List Char) (elements : List Element) (last : List Char) : Prop :=
  ∃ dangling inside members after, Inside dangling inside members ∧
    text = inside ++ '\x7d' :: after ∧
    match depth with
    | 0 => elements = leavesOfAll members ∧ last = after
    | outer + 1 => ∃ next others, skipDelimiter after = .ok next ∧
        takeItems outer next = .ok (others, last) ∧ elements = leavesOfAll members ++ others

section

variable {depth : Nat} {elements : List Element} {text last : List Char}

theorem closes_of_brace {inside rest : List Char} {dangling : Nat} {members : List Tree}
    (stands : Inside dangling inside members)
    (taken : takeItems depth ('\x7d' :: rest) = .ok (elements, last)) :
    Closes depth (inside ++ '\x7d' :: rest) (leavesOfAll members ++ elements) last := by
  refine ⟨dangling, inside, members, rest, stands, rfl, ?_⟩
  cases depth with
  | zero =>
      rw [takeItems_close_zero (skipBlanks_cons (by decide) rest)] at taken
      cases taken
      exact ⟨List.append_nil _, rfl⟩
  | succ outer =>
      rw [takeItems_close_succ (skipBlanks_cons (by decide) rest)] at taken
      cases delimited : skipDelimiter rest with
      | error stop =>
          rw [delimited] at taken
          cases taken
      | ok next =>
          rw [delimited] at taken
          exact ⟨next, elements, rfl, taken, rfl⟩

/-- Items and a delimiter may stand in front of what a scan has read. -/
theorem Items.closes {dangling : Nat} {first after next : List Char} {trees : List Tree}
    (items : Items Readable dangling first trees) (delimited : skipDelimiter after = .ok next)
    (taken : takeItems depth next = .ok (elements, last))
    (closes : Closes depth next elements last) :
    Closes depth (first ++ after) (leavesOfAll trees ++ elements) last := by
  obtain ⟨blanks, blank, rfl | ⟨rest, rfl, rfl⟩⟩ := exists_of_skipDelimiter delimited
  case inl =>
    obtain ⟨others, inside, members, remaining, stands, rfl, ends⟩ := closes
    obtain ⟨total, standsAfter⟩ := stands.append (items.append_blanks blank)
    refine ⟨total, _, _, remaining, standsAfter, by simp, ?_⟩
    cases depth with
    | zero =>
        obtain ⟨rfl, rfl⟩ := ends
        exact ⟨(leavesOfAll_append trees members).symm, rfl⟩
    | succ outer =>
        obtain ⟨following, more, delimits, takenLater, rfl⟩ := ends
        refine ⟨following, more, delimits, takenLater, ?_⟩
        rw [leavesOfAll_append, List.append_assoc]
  case inr =>
    rw [← List.append_assoc]
    exact closes_of_brace (.items (items.append_blanks blank)) taken

theorem takeElement_readable {rest : List Char} {character : Char} {element : Element}
    (taken : takeElement (character :: rest) = .ok (element, last)) :
    ∃ written, Readable element written ∧ character :: rest = written ++ last := by
  by_cases quote : character = '"'
  case pos =>
    subst quote
    simp only [takeElement] at taken
    cases found : takeQuoted rest with
    | none =>
        rw [found] at taken
        cases taken
    | some pair =>
        obtain ⟨written, after⟩ := pair
        rw [found] at taken
        cases taken
        obtain ⟨rfl, spelled, spells⟩ := spells_of_takeQuoted found
        rw [spells.unescape_eq (by decide)]
        exact ⟨_, .quoted spells, by simp⟩
  case neg =>
    rw [takeElement_of_ne quote] at taken
    cases found : takeUnquoted (character :: rest) with
    | error stop =>
        rw [found] at taken
        cases taken
    | ok pair =>
        obtain ⟨written, after⟩ := pair
        rw [found] at taken
        dsimp only at taken
        split at taken
        case isTrue => cases taken
        case isFalse notBlank =>
          cases taken
          obtain ⟨spelled, spells⟩ := spells_of_takeUnquoted found
          rw [isEmpty_trim] at notBlank
          exact ⟨written, .unquoted spells (by simpa using notBlank),
            (append_takeUnquoted found).symm⟩

theorem suffix_of_takeElement {character : Char} {rest after : List Char} {element : Element}
    (taken : takeElement (character :: rest) = .ok (element, after)) :
    after <:+ character :: rest := by
  obtain ⟨written, _, whole⟩ := takeElement_readable taken
  rw [whole]
  exact List.suffix_append _ _

/-- A scan that succeeds has closed the innermost array, and then gone on with the one around it. -/
theorem closes_of_takeItems (taken : takeItems depth text = .ok (elements, last)) :
    Closes depth text elements last := by
  induction size : text.length using Nat.strongRecOn generalizing depth text elements last with
  | ind size inductionHypothesis =>
      subst size
      obtain ⟨before, blank, whole⟩ := exists_blanks text
      cases started : skipBlanks text with
      | nil =>
          rw [takeItems_nil started] at taken
          cases taken
      | cons character rest =>
          rw [started] at whole
          have shorter : rest.length < text.length := by
            rw [whole, List.length_append, List.length_cons]
            omega
          by_cases opens : character = '\x7b'
          case pos =>
            subst opens
            rw [takeItems_open started] at taken
            obtain ⟨dangling, inside, members, after, stands, rfl, next, others, delimited, later,
              rfl⟩ := inductionHypothesis _ shorter taken rfl
            have evenShorter : next.length < text.length := by
              have atMost := length_skipDelimiter delimited
              simp only [List.length_append, List.length_cons] at shorter
              omega
            have item := stands.array blank Blanks.nil
            have closed :=
              item.closes delimited later (inductionHypothesis _ evenShorter later rfl)
            rw [whole]
            simpa [leavesOfAll, Tree.leaves] using closed
          case neg =>
            by_cases closes : character = '\x7d'
            case pos =>
              subst closes
              rw [whole, takeItems_brace blank] at taken
              rw [whole]
              exact closes_of_brace (.empty blank) taken
            case neg =>
              obtain ⟨element, after, next, others, read, delimited, later, rfl⟩ :=
                exists_of_takeItems_element started opens closes taken
              have shorterNext : next.length < text.length := by
                have atMost := length_skipDelimiter delimited
                have less := length_takeElement read
                rw [whole, List.length_append]
                omega
              obtain ⟨written, readable, same⟩ := takeElement_readable read
              have item := Items.element blank Blanks.nil readable
              have closed :=
                item.closes delimited later (inductionHypothesis _ shorterNext later rfl)
              rw [whole, same]
              simpa [leavesOfAll, Tree.leaves] using closed

/-- What follows the brace that closes the outermost array is left. -/
theorem suffix_of_takeItems {rest last : List Char} {elements : List Element}
    (taken : takeItems 0 rest = .ok (elements, last)) : last <:+ rest := by
  obtain ⟨_, inside, _, after, _, rfl, _, rfl⟩ := closes_of_takeItems taken
  exact (List.suffix_cons _ _).trans (List.suffix_append _ _)

end

end BankLedger.Sql.ArrayLiteral
