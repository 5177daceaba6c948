import BankLedger.Proofs.Json.Numbers
import BankLedger.Proofs.Json.Records

/-!
# Skipping what was written

The texts of JSON values have a grammar, which says nothing of what the values mean: a number may be
out of every range, and half of a surrogate pair may stand alone.  A text of that grammar is skipped
exactly, whatever its value is and however deeply it is nested, and the brackets around it are left
as they were.
-/

namespace BankLedger.Json

open BankLedger.Text

/-! ## The grammar of values -/

/-- Some decimal digits, at least one. -/
structure Digits (text : List Char) : Prop where
  nonempty : text ≠ []
  all : ∀ digit ∈ text, isDigit digit = true

/-- The integer digits of a number: there is no zero in front of others. -/
inductive WholeText : List Char → Prop
  | zero : WholeText ['0']
  | digits {first : Char} {others : List Char} (leading : first ≠ '0')
      (run : Digits (first :: others)) : WholeText (first :: others)

/-- The fraction of a number, if it has one. -/
inductive FractionText : List Char → Prop
  | none : FractionText []
  | digits {digits : List Char} (run : Digits digits) : FractionText ('.' :: digits)

/-- The exponent of a number, if it has one. -/
inductive ExponentText : List Char → Prop
  | none : ExponentText []
  | digits {mark : Char} {digits : List Char} (marked : mark ∈ ['e', 'E']) (sign : List Char)
      (signed : sign ∈ [[], ['+'], ['-']]) (run : Digits digits) :
      ExponentText (mark :: (sign ++ digits))

/-- A number without its sign. -/
inductive UnsignedText : List Char → Prop
  | parts {whole fraction exponent : List Char} (first : WholeText whole)
      (second : FractionText fraction) (third : ExponentText exponent) :
      UnsignedText (whole ++ (fraction ++ exponent))

/-- The characters of a string up to its closing quote. -/
inductive StringText : List Char → Prop
  | nil : StringText []
  | plain {character : Char} {others : List Char} (unquoted : character ≠ '"')
      (unescaped : character ≠ '\\') (printable : 32 ≤ character.toNat)
      (next : StringText others) : StringText (character :: others)
  | short {mark character : Char} {others : List Char} (known : (mark, character) ∈ shortEscapes)
      (next : StringText others) : StringText ('\\' :: mark :: others)
  | code {digits others : List Char} {number : Nat} (code : HexCode digits number)
      (next : StringText others) : StringText ('\\' :: 'u' :: (digits ++ others))

/-- The character that opens a bracket. -/
def Bracket.opening : Bracket → Char
  | .array => '['
  | .object => '\x7b'

/-- What stands in front of a value inside a bracket: nothing, or a name with a colon. -/
inductive Label : Bracket → List Char → Prop
  | element : Label .array []
  | member {name gap other : List Char} (named : StringText name) (before : Gap gap)
      (after : Gap other) : Label .object ('"' :: (name ++ '"' :: (gap ++ ':' :: other)))

/-- A part of a text: a value, or all that stands in a bracket after its opening or after one of its
values, with the end of the bracket. -/
inductive Part
  | value
  | opened (bracket : Bracket)
  | continued (bracket : Bracket)

/-- How the parts of a text may be written. -/
inductive Written : Part → List Char → Prop
  | word {text : List Char} (known : text ∈ ["null".toList, "true".toList, "false".toList]) :
      Written .value text
  | string {text : List Char} (body : StringText text) : Written .value ('"' :: (text ++ ['"']))
  | unsigned {text : List Char} (number : UnsignedText text) : Written .value text
  | negative {text : List Char} (number : UnsignedText text) : Written .value ('-' :: text)
  | bracket (bracket : Bracket) {text : List Char} (inside : Written (.opened bracket) text) :
      Written .value (bracket.opening :: text)
  | empty {bracket : Bracket} {gap : List Char} (blank : Gap gap) :
      Written (.opened bracket) (gap ++ [bracket.closing])
  | first {bracket : Bracket} {gap label text rest : List Char} (blank : Gap gap)
      (labelled : Label bracket label) (value : Written .value text)
      (others : Written (.continued bracket) rest) :
      Written (.opened bracket) (gap ++ (label ++ (text ++ rest)))
  | next {bracket : Bracket} {gap other label text rest : List Char} (before : Gap gap)
      (after : Gap other) (labelled : Label bracket label) (value : Written .value text)
      (others : Written (.continued bracket) rest) :
      Written (.continued bracket) (gap ++ ',' :: (other ++ (label ++ (text ++ rest))))
  | done {bracket : Bracket} {gap : List Char} (blank : Gap gap) :
      Written (.continued bracket) (gap ++ [bracket.closing])

/-! ## Scalars -/

section

variable {rest : List Char}

theorem peek_eq (text : List Char) : peek text = .ok (text.head?, text) :=
  rfl

theorem takeWord_append (word rest : List Char) :
    takeWord word (word ++ rest) = .ok ((), rest) := by
  induction word with
  | nil => rfl
  | cons first word inductionHypothesis =>
      rw [takeWord, List.cons_append, bind_of_taken (peek_cons ..)]
      simp only [beq_self_eq_true, if_true]
      rw [bind_of_taken (advance_cons ..), inductionHypothesis]

/-- No digit stands in front. -/
def Undigited (text : List Char) : Prop :=
  ∀ next ∈ text.head?, isDigit next = false

theorem Undigited.peek {text : List Char} (undigited : Undigited text) :
    ¬((text.head?.map isDigit).getD false = true) := by
  cases text with
  | nil => exact Bool.false_ne_true
  | cons next others => simp [undigited next rfl]

theorem Follows.undigited (follows : Follows rest) : Undigited rest :=
  fun _ first => (follows.head_ne first).1

namespace Digits

variable {digits : List Char} (run : Digits digits)

include run

theorem head : (((digits ++ rest).head?).map isDigit).getD false = true := by
  cases digits with
  | nil => exact absurd rfl run.nonempty
  | cons first others => exact run.all first List.mem_cons_self

theorem peek {found missing : Reader Unit} :
    (do if ((← Json.peek).map isDigit).getD false then found else missing : Reader Unit)
      (digits ++ rest) = found (digits ++ rest) := by
  rw [bind_of_taken (peek_eq _), if_pos run.head]

theorem skip (ends : Undigited rest) :
    skipDigits (digits ++ rest) = .ok ((), rest) := by
  have skipped : (digits ++ rest).dropWhile isDigit = rest := by
    rw [List.dropWhile_append_of_pos run.all]
    cases rest with
    | nil => rfl
    | cons next others => exact List.dropWhile_cons_of_neg (by simp [ends next rfl])
  change Except.ok ((), (digits ++ rest).dropWhile isDigit) = _
  rw [skipped]

theorem skipExponent {mark : Char} {sign : List Char} (signed : sign ∈ [[], ['+'], ['-']])
    (ends : Undigited rest) :
    Json.skipExponent (mark :: (sign ++ (digits ++ rest))) = .ok ((), rest) := by
  have unsigned : ¬((((digits ++ rest).head? == some '+') ||
      ((digits ++ rest).head? == some '-')) = true) := by
    intro signed
    rw [Bool.or_eq_true, beq_iff_eq, beq_iff_eq] at signed
    have digit : ((digits ++ rest).head?.map isDigit).getD false = true := run.head
    rcases signed with plus | minus
    · rw [plus] at digit
      cases digit
    · rw [minus] at digit
      cases digit
  rw [Json.skipExponent, bind_of_taken (advance_cons ..), bind_of_taken (peek_eq _)]
  dsimp only
  simp only [List.mem_cons, List.not_mem_nil, or_false] at signed
  rcases signed with rfl | rfl | rfl
  · rw [List.nil_append, if_neg unsigned, run.peek, run.skip ends]
  · simp only [List.singleton_append, List.head?_cons, beq_self_eq_true, Bool.true_or, if_true]
    rw [bind_of_taken (advance_cons ..), run.peek, run.skip ends]
  · simp only [List.singleton_append, List.head?_cons, beq_self_eq_true, Bool.or_true, if_true]
    rw [bind_of_taken (advance_cons ..), run.peek, run.skip ends]

end Digits

namespace ExponentText

variable {exponent : List Char} (written : ExponentText exponent) (follows : Follows rest)

include written follows

theorem head_ne : ∀ next ∈ (exponent ++ rest).head?, isDigit next = false ∧ next ≠ '.' := by
  intro next first
  cases written with
  | none => exact ⟨(follows.head_ne first).1, (follows.head_ne first).2.1⟩
  | digits marked sign signed run =>
      cases first
      simp only [List.mem_cons, List.not_mem_nil, or_false] at marked
      rcases marked with rfl | rfl
      · exact ⟨rfl, by decide⟩
      · exact ⟨rfl, by decide⟩

theorem undigited : Undigited (exponent ++ rest) :=
  fun next first => (written.head_ne follows next first).1

theorem skip : skipOptionalExponent (exponent ++ rest) = .ok ((), rest) := by
  rw [skipOptionalExponent, bind_of_taken (peek_eq _)]
  cases written with
  | none =>
      rw [List.nil_append, if_neg]
      · rfl
      · rw [Bool.or_eq_true, beq_iff_eq, beq_iff_eq]
        rintro (lower | upper)
        · exact (follows.head_ne lower).2.2.1 rfl
        · exact (follows.head_ne upper).2.2.2 rfl
  | digits marked sign signed run =>
      rw [List.cons_append, List.append_assoc, List.head?_cons, if_pos]
      · exact run.skipExponent signed follows.undigited
      · simpa using marked

end ExponentText

namespace FractionText

variable {fraction exponent : List Char} (written : FractionText fraction)
variable (other : ExponentText exponent) (follows : Follows rest)

include written other follows

theorem undigited : Undigited (fraction ++ (exponent ++ rest)) := by
  cases written with
  | none => exact other.undigited follows
  | digits run =>
      intro next first
      cases first
      decide

/-- What follows the integer digits of a number is skipped, be there a fraction or not. -/
theorem skip :
    (do if (← peek) == some '.' then skipFraction else skipOptionalExponent : Reader Unit)
      (fraction ++ (exponent ++ rest)) = .ok ((), rest) := by
  rw [bind_of_taken (peek_eq _)]
  cases written with
  | none =>
      rw [List.nil_append, if_neg]
      · exact other.skip follows
      · rw [beq_iff_eq]
        intro point
        exact (other.head_ne follows _ point).2 rfl
  | digits run =>
      rw [List.cons_append, List.head?_cons, if_pos (beq_self_eq_true _), skipFraction,
        bind_of_taken (advance_cons ..), run.peek,
        bind_of_taken (run.skip (other.undigited follows)), other.skip follows]

end FractionText

theorem UnsignedText.skip {text : List Char} (written : UnsignedText text)
    (follows : Follows rest) : skipNumber (text ++ rest) = .ok ((), rest) := by
  cases written with
  | parts first second third =>
      have tail := second.skip third follows
      have ends := second.undigited third follows
      cases first with
      | zero =>
          rw [List.singleton_append, List.cons_append, List.append_assoc, skipNumber,
            bind_of_taken (peek_cons ..)]
          dsimp only
          rw [if_neg (by decide), if_pos (beq_self_eq_true _), bind_of_taken (advance_cons ..),
            bind_of_taken (peek_eq _), if_neg ends.peek]
          exact tail
      | digits leading run =>
          have digit : isDigit _ = true := run.all _ List.mem_cons_self
          have skipped := run.skip ends
          rw [List.cons_append] at skipped
          rw [List.append_assoc, List.cons_append, List.append_assoc, skipNumber,
            bind_of_taken (peek_cons ..)]
          dsimp only
          rw [if_neg (by simp [digit]), if_neg (by simp [leading]), bind_of_taken skipped]
          exact tail

end

/-! ## Strings -/

theorem skipEscape_of_short {mark character : Char} (known : (mark, character) ∈ shortEscapes)
    (rest : List Char) : skipEscape (mark :: rest) = .ok ((), rest) := by
  have known := shortEscape?_of_mem known
  have other : ¬((mark == 'u') = true) := by
    rw [beq_iff_eq]
    rintro rfl
    contradiction
  rw [skipEscape, bind_of_taken (peek_cons ..)]
  dsimp only
  rw [if_neg other, known, if_pos Option.isSome_some, advance_cons]

theorem skipEscape_of_code {digits : List Char} {number : Nat} (code : HexCode digits number)
    (rest : List Char) : skipEscape ('u' :: (digits ++ rest)) = .ok ((), rest) := by
  rw [skipEscape, bind_of_taken (peek_cons ..)]
  change (advance >>= fun _ => discard takeHex) _ = _
  rw [bind_of_taken (advance_cons ..)]
  change (takeHex >>= fun _ => pure ()) _ = _
  rw [bind_of_taken (takeHex_of_code code)]
  rfl

theorem skipString_escape {escape rest : List Char} {steps : Nat}
    (skipped : skipEscape escape = .ok ((), rest)) :
    skipString (steps + 1) ('\\' :: escape) = skipString steps rest := by
  rw [skipString, bind_of_taken (peek_cons ..)]
  change (advance >>= fun _ => skipEscape >>= fun _ => skipString steps) _ = _
  rw [bind_of_taken (advance_cons ..), bind_of_taken skipped]

theorem StringText.skip {text : List Char} (body : StringText text) (rest : List Char) :
    ∀ steps, text.length < steps → skipString steps (text ++ '"' :: rest) = .ok ((), rest) := by
  induction body with
  | nil =>
      intro steps enough
      obtain ⟨fewer, rfl⟩ := Nat.exists_eq_add_one_of_ne_zero (Nat.ne_zero_of_lt enough)
      rfl
  | plain unquoted unescaped printable next inductionHypothesis =>
      intro steps enough
      rw [List.length_cons] at enough
      obtain ⟨fewer, rfl⟩ := Nat.exists_eq_add_one_of_ne_zero (Nat.ne_zero_of_lt enough)
      rw [skipString, List.cons_append, bind_of_taken (peek_cons ..)]
      simp only [beq_iff_eq, unquoted, unescaped, if_false, Nat.not_lt.mpr printable]
      rw [bind_of_taken (advance_cons ..), inductionHypothesis fewer (by omega)]
  | short known next inductionHypothesis =>
      intro steps enough
      rw [List.length_cons, List.length_cons] at enough
      obtain ⟨fewer, rfl⟩ := Nat.exists_eq_add_one_of_ne_zero (Nat.ne_zero_of_lt enough)
      rw [List.cons_append, List.cons_append, skipString_escape (skipEscape_of_short known _),
        inductionHypothesis fewer (by omega)]
  | code code next inductionHypothesis =>
      intro steps enough
      rw [List.length_cons, List.length_cons, List.length_append] at enough
      obtain ⟨fewer, rfl⟩ := Nat.exists_eq_add_one_of_ne_zero (Nat.ne_zero_of_lt enough)
      rw [List.cons_append, List.cons_append, List.append_assoc,
        skipString_escape (skipEscape_of_code code _), inductionHypothesis fewer (by omega)]

theorem StringText.skipBody {text : List Char} (body : StringText text) (rest : List Char) :
    skipStringBody (text ++ '"' :: rest) = .ok ((), rest) := by
  have enough : text.length < (text ++ '"' :: rest).length + 1 := by
    rw [List.length_append]
    omega
  exact body.skip rest _ enough

/-! ## Parts of a value -/

/-- Where skipping stands in front of a part. -/
def Part.state : Part → SkipState
  | .value => .value
  | .opened bracket => .opened bracket
  | .continued bracket => .between bracket

/-- Goes on with what is to be skipped next, if there is anything. -/
def skipNext (steps : Nat) : Option (SkipState × List Bracket) → Reader Unit
  | none => pure ()
  | some (next, brackets) => skipParts steps next brackets

theorem skipParts_of_part {steps : Nat} {state : SkipState} {outer : List Bracket}
    {next : Option (SkipState × List Bracket)} {text rest : List Char}
    (skipped : skipPart state outer text = .ok (next, rest)) :
    skipParts (steps + 1) state outer text = skipNext steps next rest := by
  rw [skipParts, bind_of_taken skipped]
  cases next <;> rfl

/-- The first character of a value shows that it is no end of a bracket. -/
def StartsValue (first : Char) : Prop :=
  isGap first = false ∧ first ∉ [',', ']', '\x7d']

section

variable {rest gap : List Char} {outer : List Bracket}

theorem UnsignedText.exists_digit {text : List Char} (number : UnsignedText text) :
    ∃ first others, text = first :: others ∧ isDigit first = true := by
  cases number with
  | parts first second third =>
      cases first with
      | zero => exact ⟨_, _, rfl, by decide⟩
      | digits leading run => exact ⟨_, _, rfl, run.all _ List.mem_cons_self⟩

theorem startsValue_of_startsNumber {first : Char} (number : startsNumber first = true) :
    StartsValue first := by
  refine ⟨isGap_of_startsNumber number, fun mark => ?_⟩
  simp only [List.mem_cons, List.not_mem_nil, or_false] at mark
  rcases mark with rfl | rfl | rfl <;> contradiction

theorem Written.exists_first {text : List Char} (written : Written .value text) :
    ∃ first others, text = first :: others ∧ StartsValue first := by
  cases written with
  | word known =>
      simp only [List.mem_cons, List.not_mem_nil, or_false] at known
      rcases known with rfl | rfl | rfl
      · exact ⟨'n', _, rfl, by decide, by decide⟩
      · exact ⟨'t', _, rfl, by decide, by decide⟩
      · exact ⟨'f', _, rfl, by decide, by decide⟩
  | string body => exact ⟨_, _, rfl, by decide, by decide⟩
  | unsigned number =>
      obtain ⟨first, others, rfl, digit⟩ := number.exists_digit
      exact ⟨first, others, rfl, startsValue_of_startsNumber (by simp [startsNumber, digit])⟩
  | negative number => exact ⟨_, _, rfl, by decide, by decide⟩
  | bracket bracket inside =>
      cases bracket
      · exact ⟨_, _, rfl, by decide, by decide⟩
      · exact ⟨_, _, rfl, by decide, by decide⟩

/-- A scalar is skipped, and skipping goes on outside it. -/
theorem skipPart_of_scalar {first : Char} {text : List Char} (blank : Gap gap)
    (solid : isGap first = false) (noBracket : first ∉ ['[', '\x7b'])
    (skips : skipScalar first (first :: text) = .ok ((), rest)) :
    skipPart .value outer (gap ++ first :: text) = .ok (SkipState.afterValue outer, rest) := by
  simp only [List.mem_cons, List.not_mem_nil, or_false, not_or] at noBracket
  obtain ⟨noArray, noObject⟩ := noBracket
  rw [skipPart, bind_of_taken (peekToken_gap blank solid)]
  simp only
  rw [bind_of_taken skips]
  rfl

theorem skipPart_of_opening (blank : Gap gap) (bracket : Bracket) :
    skipPart .value outer (gap ++ bracket.opening :: rest) =
      .ok (some (.opened bracket, outer), rest) := by
  cases bracket
  · rw [skipPart, bind_of_taken (peekToken_gap blank rfl)]
    rfl
  · rw [skipPart, bind_of_taken (peekToken_gap blank rfl)]
    rfl

theorem isGap_closing (bracket : Bracket) : isGap bracket.closing = false := by
  cases bracket <;> rfl

theorem skipPart_of_empty (blank : Gap gap) (bracket : Bracket) :
    skipPart (.opened bracket) outer (gap ++ bracket.closing :: rest) =
      .ok (SkipState.afterValue outer, rest) := by
  rw [skipPart, bind_of_taken (peekToken_gap blank (isGap_closing bracket))]
  simp only [beq_self_eq_true, if_true]
  rw [bind_of_taken (advance_cons ..)]
  rfl

theorem skipPart_of_done (blank : Gap gap) (bracket : Bracket) :
    skipPart (.between bracket) outer (gap ++ bracket.closing :: rest) =
      .ok (SkipState.afterValue outer, rest) := by
  have noComma : (bracket.closing == ',') = false := by cases bracket <;> rfl
  rw [skipPart, bind_of_taken (peekToken_gap blank (isGap_closing bracket))]
  simp only [noComma, Bool.false_eq_true, beq_self_eq_true, if_true, if_false]
  rw [bind_of_taken (advance_cons ..)]
  rfl

theorem skipName_gap {name other : List Char} (named : StringText name) (before : Gap gap)
    (after : Gap other) :
    skipName (gap ++ '"' :: (name ++ '"' :: (other ++ ':' :: rest))) = .ok ((), rest) := by
  rw [skipName, bind_of_taken (peekToken_gap before rfl)]
  change (advance >>= fun _ => skipStringBody >>= fun _ => peekToken >>= _) _ = _
  rw [bind_of_taken (advance_cons ..), bind_of_taken (named.skipBody _),
    bind_of_taken (peekToken_gap after rfl)]
  rfl

/-- What stands in front of a value is skipped, perhaps with some blanks left. -/
theorem Label.skip {bracket : Bracket} {label : List Char} (labelled : Label bracket label)
    (blank : Gap gap) (rest : List Char) {α : Type} (answer : α) :
    ∃ other, Gap other ∧
      (if bracket = .object then do skipName; return answer else return answer : Reader α)
        (gap ++ (label ++ rest)) = .ok (answer, other ++ rest) := by
  cases labelled with
  | element => exact ⟨gap, blank, rfl⟩
  | member named before after =>
      refine ⟨_, after, ?_⟩
      simp only [List.cons_append, List.append_assoc, if_true]
      rw [bind_of_taken (skipName_gap named blank before)]
      rfl

theorem Label.exists_first {bracket : Bracket} {label text : List Char}
    (labelled : Label bracket label) (value : Written .value text) (rest : List Char) :
    ∃ first others, label ++ (text ++ rest) = first :: others ∧ StartsValue first := by
  cases labelled with
  | element =>
      obtain ⟨first, others, rfl, starts⟩ := value.exists_first
      exact ⟨first, others ++ rest, rfl, starts⟩
  | member named before after => exact ⟨_, _, rfl, by decide, by decide⟩

theorem skipPart_of_first {bracket : Bracket} {label text : List Char} (blank : Gap gap)
    (labelled : Label bracket label) (value : Written .value text) :
    ∃ other, Gap other ∧
      skipPart (.opened bracket) outer (gap ++ (label ++ (text ++ rest))) =
        .ok (some (.value, bracket :: outer), other ++ (text ++ rest)) := by
  obtain ⟨first, others, starting, solid, noMark⟩ := labelled.exists_first value rest
  obtain ⟨other, after, skipped⟩ := labelled.skip gap_nil (text ++ rest)
    (some (SkipState.value, bracket :: outer))
  have goesOn : (first == bracket.closing) = false := by
    rw [beq_eq_false_iff_ne]
    rintro rfl
    cases bracket <;> exact noMark (by decide)
  refine ⟨other, after, ?_⟩
  rw [← skipped, starting, skipPart, bind_of_taken (peekToken_gap blank solid)]
  simp only [goesOn, Bool.false_eq_true, if_false]
  rfl

theorem skipPart_of_next {bracket : Bracket} {label text between : List Char} (before : Gap gap)
    (after : Gap between) (labelled : Label bracket label) :
    ∃ other, Gap other ∧
      skipPart (.between bracket) outer
          (gap ++ ',' :: (between ++ (label ++ (text ++ rest)))) =
        .ok (some (.value, bracket :: outer), other ++ (text ++ rest)) := by
  obtain ⟨other, left, skipped⟩ := labelled.skip after (text ++ rest)
    (some (SkipState.value, bracket :: outer))
  refine ⟨other, left, ?_⟩
  rw [← skipped, skipPart, bind_of_taken (peekToken_gap before rfl)]
  simp only [beq_self_eq_true, if_true]
  rw [bind_of_taken (advance_cons ..)]

/-- What follows a value inside a bracket ends that value. -/
theorem Written.follows {bracket : Bracket} {text : List Char}
    (written : Written (.continued bracket) text) (rest : List Char) : Follows (text ++ rest) := by
  cases written with
  | next before after labelled value others =>
      rw [List.append_assoc]
      exact before.follows_append (follows_cons (by decide))
  | done blank =>
      rw [List.append_assoc]
      exact blank.follows_append (follows_cons (by cases bracket <;> decide))

/-- A text is skipped from a part on in a number of steps, whatever blanks come first and whatever
brackets are around it, and skipping goes on outside it. -/
def SkipsIn (cost : Nat) (part : Part) (text : List Char) : Prop :=
  ∀ (steps : Nat) (outer : List Bracket) (gap rest : List Char), Gap gap → Follows rest →
    skipParts (steps + cost) part.state outer (gap ++ (text ++ rest)) =
      skipNext steps (SkipState.afterValue outer) rest

/-- A text is skipped from a part on in fewer steps than twice its length. -/
def SkipsSoon (part : Part) (text : List Char) : Prop :=
  ∃ cost, cost < 2 * text.length ∧ SkipsIn cost part text

/-- A scalar is skipped in one step. -/
theorem skipsSoon_of_scalar {first : Char} {text : List Char} (solid : isGap first = false)
    (noBracket : first ∉ ['[', '\x7b'])
    (skips : ∀ rest, Follows rest →
      skipScalar first (first :: (text ++ rest)) = .ok ((), rest)) :
    SkipsSoon .value (first :: text) := by
  refine ⟨1, by rw [List.length_cons]; omega, ?_⟩
  intro steps outer gap rest blank follows
  rw [List.cons_append]
  exact skipParts_of_part (skipPart_of_scalar blank solid noBracket (skips rest follows))

theorem skipsSoon_of_word {first : Char} {others : List Char} (solid : isGap first = false)
    (noBracket : first ∉ ['[', '\x7b'])
    (skips : skipScalar first = (do advance; takeWord others)) :
    SkipsSoon .value (first :: others) := by
  apply skipsSoon_of_scalar solid noBracket
  intro rest _
  rw [skips, bind_of_taken (advance_cons ..), takeWord_append]

theorem skipScalar_of_digit {first : Char} (digit : isDigit first = true) :
    skipScalar first = skipNumber := by
  have other (mark : Char) (noDigit : isDigit mark = false) : (first == mark) = false := by
    rw [beq_eq_false_iff_ne]
    rintro rfl
    cases digit.symm.trans noDigit
  simp only [skipScalar, other 'n' rfl, other 't' rfl, other 'f' rfl, other '"' rfl, other '-' rfl,
    digit, Bool.false_eq_true, if_false, if_true]

theorem skipsSoon_of_unsigned {text : List Char} (number : UnsignedText text) :
    SkipsSoon .value text := by
  obtain ⟨first, others, rfl, digit⟩ := number.exists_digit
  have solid : isGap first = false := isGap_of_startsNumber (by simp [startsNumber, digit])
  have noBracket : first ∉ ['[', '\x7b'] := by
    intro mark
    simp only [List.mem_cons, List.not_mem_nil, or_false] at mark
    rcases mark with rfl | rfl <;> contradiction
  apply skipsSoon_of_scalar solid noBracket
  intro rest follows
  rw [skipScalar_of_digit digit]
  exact number.skip follows

/-- The end of a bracket is skipped in one step. -/
theorem skipsSoon_of_end {part : Part} {bracket : Bracket} (blank : Gap gap)
    (ends : ∀ {gap rest : List Char} {outer : List Bracket}, Gap gap →
      skipPart part.state outer (gap ++ bracket.closing :: rest) =
        .ok (SkipState.afterValue outer, rest)) :
    SkipsSoon part (gap ++ [bracket.closing]) := by
  refine ⟨1, by rw [List.length_append, List.length_singleton]; omega, ?_⟩
  intro steps outer front rest more follows
  rw [List.append_assoc, ← List.append_assoc]
  exact skipParts_of_part (ends (more.append blank))

/-- An entry of a bracket is skipped up to its value, then the value with the bracket around it, and
then what follows it inside the bracket. -/
theorem skipsSoon_of_entry {part : Part} {bracket : Bracket} {front text others : List Char}
    (written : Written (.continued bracket) others)
    (entered : ∀ (outer : List Bracket) (gap rest : List Char), Gap gap → ∃ other, Gap other ∧
      skipPart part.state outer (gap ++ (front ++ (text ++ rest))) =
        .ok (some (.value, bracket :: outer), other ++ (text ++ rest)))
    (value : SkipsSoon .value text) (left : SkipsSoon (.continued bracket) others) :
    SkipsSoon part (front ++ (text ++ others)) := by
  obtain ⟨costValue, fewValue, skipsValue⟩ := value
  obtain ⟨costOthers, fewOthers, skipsOthers⟩ := left
  refine ⟨costOthers + costValue + 1, by simp only [List.length_append]; omega, ?_⟩
  intro steps outer gap rest blank follows
  obtain ⟨other, blankLeft, entered⟩ := entered outer gap (others ++ rest) blank
  -- The steps that the value leaves are those that what follows it takes.
  have inside := skipsValue (steps + costOthers) (bracket :: outer) other (others ++ rest) blankLeft
    (written.follows rest)
  have outside := skipsOthers steps outer [] rest gap_nil follows
  rw [List.append_assoc, List.append_assoc, ← Nat.add_assoc, skipParts_of_part entered,
    ← Nat.add_assoc]
  exact inside.trans outside

/-- Every part is skipped soon. -/
theorem Written.skipsSoon {part : Part} {text : List Char} (written : Written part text) :
    SkipsSoon part text := by
  -- An entry takes one step more than its value and what follows it, and may have no character of
  -- its own: the strict bound on both leaves room for that step.
  induction written with
  | word known =>
      simp only [List.mem_cons, List.not_mem_nil, or_false] at known
      rcases known with rfl | rfl | rfl
      · exact skipsSoon_of_word rfl (by decide) rfl
      · exact skipsSoon_of_word rfl (by decide) rfl
      · exact skipsSoon_of_word rfl (by decide) rfl
  | string body =>
      apply skipsSoon_of_scalar rfl (by decide)
      intro rest follows
      rw [List.append_assoc]
      exact body.skipBody rest
  | unsigned number => exact skipsSoon_of_unsigned number
  | negative number =>
      apply skipsSoon_of_scalar rfl (by decide)
      intro rest follows
      exact number.skip follows
  | bracket bracket inside inductionHypothesis =>
      obtain ⟨cost, few, skips⟩ := inductionHypothesis
      refine ⟨cost + 1, by rw [List.length_cons]; omega, ?_⟩
      intro steps outer gap rest blank follows
      rw [List.cons_append, ← Nat.add_assoc, Part.state,
        skipParts_of_part (skipPart_of_opening blank bracket)]
      exact skips steps outer [] rest gap_nil follows
  | @empty bracket gap blank =>
      exact skipsSoon_of_end blank fun more => skipPart_of_empty more bracket
  | first blank labelled value others valueHypothesis othersHypothesis =>
      rw [← List.append_assoc]
      refine skipsSoon_of_entry others ?_ valueHypothesis othersHypothesis
      intro outer gap rest more
      rw [List.append_assoc, ← List.append_assoc]
      exact skipPart_of_first (more.append blank) labelled value
  | @next bracket gap between label text rest before after labelled value others valueHypothesis
      othersHypothesis =>
      have entry : gap ++ ',' :: (between ++ (label ++ (text ++ rest))) =
          (gap ++ ',' :: (between ++ label)) ++ (text ++ rest) := by
        simp only [List.append_assoc, List.cons_append]
      rw [entry]
      refine skipsSoon_of_entry others ?_ valueHypothesis othersHypothesis
      intro outer front last more
      obtain ⟨other, left, entered⟩ := skipPart_of_next (more.append before) after labelled
      refine ⟨other, left, ?_⟩
      simp only [List.append_assoc, List.cons_append] at entered ⊢
      exact entered
  | @done bracket gap blank =>
      exact skipsSoon_of_end blank fun more => skipPart_of_done more bracket

/-- A value is skipped, however deeply it is nested. -/
theorem Written.takes_skipValue {text : List Char} (written : Written .value text) :
    Takes skipValue text () := by
  obtain ⟨cost, few, skips⟩ := written.skipsSoon
  intro gap rest blank follows
  have enough : 2 * (gap ++ (text ++ rest)).length + 2 =
      (2 * (gap ++ (text ++ rest)).length + 2 - cost) + cost := by
    simp only [List.length_append]
    omega
  change Json.skipParts (2 * (gap ++ (text ++ rest)).length + 2) .value [] _ = _
  rw [enough]
  exact skips _ [] gap rest blank follows

end

/-- A member that names no field of a record is skipped with its value. -/
theorem Layout.takesMember_of_foreign {Draft : Type} {layout : Layout Draft} {depth : Nat}
    {name : String} {spelling gap other value : List Char} (draft : Draft)
    (spelled : Spelled spelling name.toList)
    (foreign : layout.slots.find? (fun slot => slot.name == name) = none) (before : Gap gap)
    (after : Gap other) (written : Written .value value) :
    layout.TakesMember depth draft (spelling ++ '"' :: (gap ++ ':' :: (other ++ value))) draft := by
  intro rest follows
  simp only [List.append_assoc, List.cons_append]
  rw [readMember, bind_of_taken (spelled.takeName _), foreign]
  dsimp only
  rw [bind_of_taken (takeColon_gap before),
    bind_of_taken (written.takes_skipValue other rest after follows)]
  rfl

end BankLedger.Json
