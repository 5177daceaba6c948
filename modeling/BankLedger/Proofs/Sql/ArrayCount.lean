import BankLedger.Proofs.Sql.ArraySplit

/-!
# Counting elements

The number of elements of a literal is estimated without splitting it, by the commas outside quotes.
A comma stands between two items or before a closing brace, and an item is an element or an array.
So the estimate is the number of elements, but for one more for each array without items and for
each comma before a closing brace; and it is zero for a literal with no elements at all.
-/

namespace BankLedger.Sql.ArrayLiteral

open BankLedger.Text

mutual

/-- The number of arrays without items in a tree. -/
def Tree.emptyArrays : Tree → Nat
  | .leaf _ => 0
  | .array members => if members.isEmpty then 1 else emptyArraysOfAll members

/-- The number of arrays without items in some trees. -/
def emptyArraysOfAll : List Tree → Nat
  | [] => 0
  | tree :: trees => tree.emptyArrays + emptyArraysOfAll trees

end

theorem emptyArraysOfAll_append (trees others : List Tree) :
    emptyArraysOfAll (trees ++ others) = emptyArraysOfAll trees + emptyArraysOfAll others := by
  induction trees with
  | nil => simp [emptyArraysOfAll]
  | cons tree trees inductionHypothesis =>
      rw [List.cons_append, emptyArraysOfAll, inductionHypothesis, emptyArraysOfAll, Nat.add_assoc]

theorem emptyArraysOfAll_map_leaf {α : Type} (elements : List α) (element : α → Element) :
    emptyArraysOfAll (elements.map fun one => .leaf (element one)) = 0 := by
  induction elements with
  | nil => rfl
  | cons one elements inductionHypothesis =>
      rw [List.map_cons, emptyArraysOfAll, inductionHypothesis, Tree.emptyArrays]

/-! ## The tally of a text -/

section

variable {before written text rest : List Char}

/-- What a tally says of a character that is neither a quote nor a backslash. -/
theorem tally_plain {character : Char} (quote : character ≠ '"') (backslash : character ≠ '\\')
    (quoted : Bool) (rest : List Char) :
    tally quoted (character :: rest) =
      if quoted then ((tally quoted rest).1, true)
      else if character == ',' then ((tally quoted rest).1 + 1, (tally quoted rest).2)
      else if character == '\x7b' || character == '\x7d' || isAsciiBlank character then
        tally quoted rest
      else ((tally quoted rest).1, true) := by
  rw [tally]
  · exact fun same _ => backslash same
  · exact fun _ _ same _ => backslash same
  · exact quote

@[simp] theorem tally_protected (quoted : Bool) (character : Char) (rest : List Char) :
    tally quoted ('\\' :: character :: rest) = ((tally quoted rest).1, true) := by
  rw [tally]

@[simp] theorem tally_quote (quoted : Bool) (rest : List Char) :
    tally quoted ('"' :: rest) = ((tally (!quoted) rest).1, true) := by
  rw [tally]

@[simp] theorem tally_comma (rest : List Char) :
    tally false (',' :: rest) = ((tally false rest).1 + 1, (tally false rest).2) :=
  tally_plain (by decide) (by decide) false rest

@[simp] theorem tally_open (rest : List Char) : tally false ('\x7b' :: rest) = tally false rest :=
  tally_plain (by decide) (by decide) false rest

@[simp] theorem tally_close (rest : List Char) : tally false ('\x7d' :: rest) = tally false rest :=
  tally_plain (by decide) (by decide) false rest

theorem tally_blanks (blank : Blanks before) (rest : List Char) :
    tally false (before ++ rest) = tally false rest := by
  induction before with
  | nil => rfl
  | cons character before inductionHypothesis =>
      rw [Blanks, List.forall_mem_cons] at blank
      have plain := plainOutsideQuotes_of_isAsciiBlank blank.1
      simp only [PlainOutsideQuotes, List.mem_cons, List.not_mem_nil, or_false, not_or] at plain
      rw [List.cons_append, tally_plain (by simp [plain]) (by simp [plain])]
      simp [plain, blank.1, inductionHypothesis blank.2]

/-- An element in quotes has content, the quotes at least, and no delimiter. -/
theorem tally_quoted (spells : Spells PlainInQuotes written text) (rest : List Char) :
    tally true (written ++ '"' :: rest) = ((tally false rest).1, true) := by
  induction spells with
  | nil => simp
  | @plain character written text allowed _ inductionHypothesis =>
      simp only [PlainInQuotes, List.mem_cons, List.not_mem_nil, or_false, not_or] at allowed
      rw [List.cons_append, tally_plain allowed.1 allowed.2, if_pos rfl, inductionHypothesis]
  | escaped _ inductionHypothesis => simp [inductionHypothesis]

/-- An element without quotes has no delimiter, and has content if it is not blank. -/
theorem tally_unquoted (spells : Spells PlainOutsideQuotes written text) (rest : List Char) :
    tally false (written ++ rest) =
      ((tally false rest).1, !written.all isAsciiBlank || (tally false rest).2) := by
  induction spells with
  | nil => simp
  | @plain character written text allowed _ inductionHypothesis =>
      simp only [PlainOutsideQuotes, List.mem_cons, List.not_mem_nil, or_false, not_or] at allowed
      rw [List.cons_append, tally_plain (by simp [allowed]) (by simp [allowed]),
        inductionHypothesis]
      cases blank : isAsciiBlank character <;> simp [allowed, blank]
  | escaped _ inductionHypothesis =>
      have visible : isAsciiBlank '\\' = false := by decide
      simp [inductionHypothesis, visible]

/-- An element adds content and no delimiter. -/
theorem Readable.tally_append {element : Element} (readable : Readable element written)
    (rest : List Char) : tally false (written ++ rest) = ((tally false rest).1, true) := by
  cases readable with
  | quoted spells =>
      rw [List.cons_append, tally_quote, Bool.not_false, List.append_assoc,
        List.singleton_append, tally_quoted spells]
  | unquoted spells solid =>
      rw [tally_unquoted spells, all_isAsciiBlank_eq_false solid, Bool.not_false, Bool.true_or]

/-- Items have one delimiter less than there are elements, arrays without items, and commas before a
closing brace. -/
theorem Items.delimiters_append {dangling : Nat} {trees : List Tree}
    (items : Items Readable dangling text trees) (rest : List Char) :
    (tally false (text ++ rest)).1 + 1 =
      (leavesOfAll trees).length + emptyArraysOfAll trees + dangling + (tally false rest).1 := by
  induction items generalizing rest with
  | element before after readable =>
      simp [tally_blanks before, readable.tally_append, tally_blanks after, leavesOfAll,
        Tree.leaves, emptyArraysOfAll, Tree.emptyArrays, Nat.add_comm]
  | emptyArray before after inside =>
      simp [tally_blanks before, tally_blanks inside, tally_blanks after, leavesOfAll,
        Tree.leaves, emptyArraysOfAll, Tree.emptyArrays, Nat.add_comm]
  | array before after items inductionHypothesis =>
      have members := items.ne_nil
      simp [tally_blanks before, inductionHypothesis, tally_blanks after, leavesOfAll,
        Tree.leaves, emptyArraysOfAll, Tree.emptyArrays, members]
  | danglingArray before after blanks items inductionHypothesis =>
      have members := items.ne_nil
      simp [tally_blanks before, inductionHypothesis, tally_blanks blanks, tally_blanks after,
        leavesOfAll, Tree.leaves, emptyArraysOfAll, Tree.emptyArrays, members]
      omega
  | append _ _ firstHypothesis secondHypothesis =>
      have more := secondHypothesis rest
      rw [List.append_assoc, List.cons_append, firstHypothesis, tally_comma, leavesOfAll_append,
        emptyArraysOfAll_append, List.length_append]
      omega

/-- Items have content exactly if they have elements. -/
theorem Items.content_append {dangling : Nat} {trees : List Tree}
    (items : Items Readable dangling text trees) (rest : List Char) :
    (tally false (text ++ rest)).2 = (!(leavesOfAll trees).isEmpty || (tally false rest).2) := by
  induction items generalizing rest with
  | element before after readable =>
      simp [tally_blanks before, readable.tally_append, leavesOfAll, Tree.leaves]
  | emptyArray before after inside =>
      simp [tally_blanks before, tally_blanks inside, tally_blanks after, leavesOfAll, Tree.leaves]
  | array before after items inductionHypothesis =>
      simp [tally_blanks before, inductionHypothesis, tally_blanks after, leavesOfAll, Tree.leaves]
  | danglingArray before after blanks items inductionHypothesis =>
      simp [tally_blanks before, inductionHypothesis, tally_blanks blanks, tally_blanks after,
        leavesOfAll, Tree.leaves]
  | @append _ _ _ _ trees more _ _ firstHypothesis secondHypothesis =>
      rw [List.append_assoc, List.cons_append, firstHypothesis, tally_comma, secondHypothesis,
        leavesOfAll_append]
      cases leavesOfAll trees <;> simp

end

/-! ## The count of a literal -/

theorem tally_skipBlanks (text : List Char) : tally false (skipBlanks text) = tally false text := by
  obtain ⟨before, blank, whole⟩ := exists_blanks text
  calc
    tally false (skipBlanks text) = tally false (before ++ skipBlanks text) :=
      (tally_blanks blank _).symm
    _ = tally false text := by rw [← whole]

/-- The number of elements is counted exactly, but for one more for each array without items and for
each comma before a closing brace; without elements it is zero all the same. -/
theorem Literal.count_eq {literal : String} {dangling : Nat} {members : List Tree}
    (written : Literal Readable dangling literal.toList members) :
    count literal =
      if (Tree.array members).leaves.isEmpty then 0
      else (Tree.array members).leaves.length + (Tree.array members).emptyArrays + dangling := by
  obtain ⟨blanks, decoration, array, blank, decorates, items, whole⟩ := written
  obtain ⟨before, inside, after, blankBefore, _, _, opens⟩ := items.exists_inside
  have started : skipBlanks array = '\x7b' :: (inside ++ '\x7d' :: after) := by
    rw [opens, skipBlanks_append blankBefore, skipBlanks_cons (by decide)]
  obtain ⟨body, dropped, startedBody⟩ := dropDimensions?_append blank decorates started
  have same : tally false body = tally false (array ++ []) := by
    rw [← tally_skipBlanks, startedBody, ← started, tally_skipBlanks, List.append_nil]
  have delimiters := items.delimiters_append []
  have content := items.content_append []
  simp only [leavesOfAll, emptyArraysOfAll, List.append_nil, Nat.add_zero, tally, Bool.or_false]
    at delimiters content
  rw [count, whole, dropped, Option.getD_some, same, List.append_nil]
  dsimp only
  rw [content, delimiters]
  cases (Tree.array members).leaves with
  | nil => rfl
  | cons element elements => rfl

/-- A literal that is split has at most as many elements as are counted. -/
theorem length_le_count {literal : String} {elements : List Element}
    (splits : split literal = .ok elements) : elements.length ≤ count literal := by
  obtain ⟨dangling, members, written, rfl⟩ := split_eq_ok_iff.mp splits
  rw [written.count_eq, Tree.leaves]
  split
  case isTrue none =>
    rw [List.isEmpty_iff.mp none]
    exact Nat.le_refl 0
  case isFalse => omega

/-- Behind the decoration as many elements are counted as in the whole literal. -/
theorem count_ofList_body {literal : String} {body rest : List Char}
    (dropped : dropDimensions? literal.toList = some body)
    (started : skipBlanks body = '\x7b' :: rest) : count (String.ofList body) = count literal := by
  have undecorated : dropDimensions? body = some ('\x7b' :: rest) := by
    rw [dropDimensions?, ← List.nil_append body, trimStart_append_array (by simp) started]
    rfl
  rw [count, count, String.toList_ofList, undecorated, dropped, Option.getD_some,
    Option.getD_some, ← started, tally_skipBlanks]

end BankLedger.Sql.ArrayLiteral
