import BankLedger.Json.Read

/-!
# Scanning what was written

A reader looks over the blanks in front of a value and goes on as far as the value does.  Only a
number does not show by itself where it ends, so what follows a value is taken to start with a
blank, a comma or the end of an array or object.  A character of a string may be spelled in several
ways; quoting chooses one of them.
-/

namespace BankLedger.Json

open BankLedger.Text

variable {α β : Type}

/-- Some blanks between two tokens. -/
def Gap (text : List Char) : Prop :=
  ∀ character ∈ text, isGap character = true

/-- What may follow a value: a blank, a comma, the end of an array or object, or nothing. -/
def Follows (rest : List Char) : Prop :=
  ∀ next ∈ rest.head?, isGap next = true ∨ next ∈ [',', ']', '\x7d']

/-- A reader takes a text, with some blanks in front of it, as a value and leaves what follows. -/
def Takes (reader : Reader α) (text : List Char) (value : α) : Prop :=
  ∀ gap rest, Gap gap → Follows rest → reader (gap ++ (text ++ rest)) = .ok (value, rest)

section

variable {reader : Reader α} {text rest gap : List Char} {value : α}

/-- After a reader has taken something, the next one goes on with what is left. -/
theorem bind_of_taken {next : α → Reader β} (taken : reader text = .ok (value, rest)) :
    (reader >>= next) text = next value rest := by
  change (reader text >>= fun read => next read.1 read.2) = _
  rw [taken]
  rfl

theorem Takes.map (change : α → β) (takes : Takes reader text value) :
    Takes (do return change (← reader)) text (change value) := by
  intro gap rest blank follows
  exact bind_of_taken (takes gap rest blank follows)

/-! ## Blanks -/

theorem isGap_iff {character : Char} :
    isGap character = true ↔ character ∈ [' ', '\n', '\t', '\r'] := by
  simp only [isGap, Bool.or_eq_true, beq_iff_eq, or_assoc, List.mem_cons, List.not_mem_nil,
    or_false]

theorem gap_nil : Gap [] :=
  List.forall_mem_nil _

theorem gap_singleton {character : Char} (blank : isGap character = true) : Gap [character] := by
  intro other member
  rw [List.mem_singleton.mp member]
  exact blank

theorem Gap.append {other : List Char} (blank : Gap gap) (next : Gap other) :
    Gap (gap ++ other) :=
  List.forall_mem_append.mpr ⟨blank, next⟩

theorem Gap.follows (blank : Gap gap) : Follows gap := by
  intro next first
  exact .inl (blank next (List.mem_of_mem_head? first))

theorem Gap.follows_append (blank : Gap gap) (follows : Follows rest) : Follows (gap ++ rest) := by
  cases gap with
  | nil => exact follows
  | cons first others =>
      intro next same
      cases same
      exact .inl (blank first List.mem_cons_self)

theorem follows_cons {mark : Char} (known : mark ∈ [',', ']', '\x7d']) :
    Follows (mark :: rest) := by
  intro next same
  cases same
  exact .inr known

/-- Blanks are skipped up to the first character of a token. -/
theorem peekToken_gap {first : Char} (blank : Gap gap) (solid : isGap first = false) :
    peekToken (gap ++ first :: rest) = .ok (some first, first :: rest) := by
  have skipped : (gap ++ first :: rest).dropWhile isGap = first :: rest := by
    rw [List.dropWhile_append_of_pos blank, List.dropWhile_cons_of_neg (by simp [solid])]
  change Except.ok (((gap ++ first :: rest).dropWhile isGap).head?,
    (gap ++ first :: rest).dropWhile isGap) = _
  rw [skipped]
  rfl

theorem peekToken_end (blank : Gap gap) : peekToken gap = .ok (none, []) := by
  have skipped : gap.dropWhile isGap = [] := by
    rw [← List.append_nil gap, List.dropWhile_append_of_pos blank, List.dropWhile_nil]
  change Except.ok ((gap.dropWhile isGap).head?, gap.dropWhile isGap) = _
  rw [skipped]
  rfl

end

/-! ## Strings -/

/-- The short escapes: the character after the backslash, and what it stands for. -/
def shortEscapes : List (Char × Char) :=
  [('"', '"'), ('\\', '\\'), ('/', '/'), ('b', '\x08'), ('f', '\x0c'), ('n', '\n'), ('r', '\r'),
    ('t', '\t')]

/-- The hexadecimal digits, those for ten and more in either case, with their values. -/
def hexDigits : List (Char × Nat) :=
  "0123456789abcdefABCDEF".toList.zip (List.range 16 ++ [10, 11, 12, 13, 14, 15])

/-- Four hexadecimal digits with the number that they write. -/
inductive HexCode : List Char → Nat → Prop
  | digits (first second third fourth : Char × Nat)
      (known : ∀ digit ∈ [first, second, third, fourth], digit ∈ hexDigits) :
      HexCode [first.1, second.1, third.1, fourth.1]
        (((first.2 * 16 + second.2) * 16 + third.2) * 16 + fourth.2)

/-- How a character may be spelled inside a string: as it is, by a short escape, by the code of its
character, or by the codes of a surrogate pair. -/
inductive SpelledCharacter : List Char → Char → Prop
  | plain {character : Char} (unquoted : character ≠ '"') (unescaped : character ≠ '\\')
      (printable : 32 ≤ character.toNat) : SpelledCharacter [character] character
  | short {mark character : Char} (known : (mark, character) ∈ shortEscapes) :
      SpelledCharacter ['\\', mark] character
  | code {digits : List Char} {character : Char} (code : HexCode digits character.toNat) :
      SpelledCharacter ('\\' :: 'u' :: digits) character
  | pair {digits others : List Char} {upper lower : Nat} {character : Char}
      (high : HexCode digits (0xD800 + upper)) (highFits : upper < 0x400)
      (low : HexCode others (0xDC00 + lower)) (lowFits : lower < 0x400)
      (number : character.toNat = 0x10000 + upper * 0x400 + lower) :
      SpelledCharacter ('\\' :: 'u' :: (digits ++ '\\' :: 'u' :: others)) character

/-- How characters may be spelled inside a string. -/
inductive Spelled : List Char → List Char → Prop
  | nil : Spelled [] []
  | cons {spelling others : List Char} {character : Char} {characters : List Char}
      (first : SpelledCharacter spelling character) (next : Spelled others characters) :
      Spelled (spelling ++ others) (character :: characters)

theorem shortEscape?_of_mem {mark character : Char} (known : (mark, character) ∈ shortEscapes) :
    shortEscape? mark = some character := by
  have each : ∀ escape ∈ shortEscapes, shortEscape? escape.1 = some escape.2 := by decide
  exact each _ known

theorem hexValue?_of_mem : ∀ digit ∈ hexDigits,
    Octets.hexValue? digit.1 = some digit.2 ∧ digit.1.utf8Size = 1 := by
  decide

theorem takeHex_of_code {digits rest : List Char} {number : Nat} (code : HexCode digits number) :
    takeHex (digits ++ rest) = .ok (number, rest) := by
  cases code with
  | digits first second third fourth known =>
      simp only [List.forall_mem_cons] at known
      obtain ⟨first, second, third, fourth, _⟩ := known
      have first := hexValue?_of_mem _ first
      have second := hexValue?_of_mem _ second
      have third := hexValue?_of_mem _ third
      have fourth := hexValue?_of_mem _ fourth
      simp [takeHex, octetCount, hexNumber?, first, second, third, fourth]

theorem peek_cons (first : Char) (rest : List Char) :
    peek (first :: rest) = .ok (some first, first :: rest) :=
  rfl

theorem advance_cons (first : Char) (rest : List Char) : advance (first :: rest) = .ok ((), rest) :=
  rfl

/-- The code of a character is no half of a surrogate pair. -/
theorem takeCodePoint_of_code {digits rest : List Char} {character : Char}
    (code : HexCode digits character.toNat) :
    takeCodePoint (digits ++ rest) = .ok (character, rest) := by
  have scalar : character.toNat < 0xD800 ∨ 0xDFFF < character.toNat := by
    rcases character.valid with low | ⟨high, _⟩
    · exact .inl low
    · exact .inr high
  rw [takeCodePoint, bind_of_taken (takeHex_of_code code), if_neg (by simp; omega),
    if_neg (by simp; omega), Char.ofNat_toNat]
  rfl

theorem takeSurrogateMark_cons (mark : Char) (rest : List Char) :
    takeSurrogateMark mark (mark :: rest) = .ok ((), rest) := by
  rw [takeSurrogateMark, bind_of_taken (peek_cons ..)]
  simp only [beq_self_eq_true, if_true]
  rfl

/-- The halves of a surrogate pair are taken together. -/
theorem takeCodePoint_of_pair {digits others rest : List Char} {upper lower : Nat}
    {character : Char} (high : HexCode digits (0xD800 + upper)) (highFits : upper < 0x400)
    (low : HexCode others (0xDC00 + lower)) (lowFits : lower < 0x400)
    (number : character.toNat = 0x10000 + upper * 0x400 + lower) :
    takeCodePoint (digits ++ '\\' :: 'u' :: (others ++ rest)) = .ok (character, rest) := by
  have made : 0x10000 + (0xD800 + upper - 0xD800) * 0x400 + (0xDC00 + lower - 0xDC00) =
      character.toNat := by
    rw [Nat.add_sub_cancel_left, Nat.add_sub_cancel_left, number]
  rw [takeCodePoint, bind_of_taken (takeHex_of_code high), if_neg (by simp; omega),
    if_pos (by simp; omega), bind_of_taken (takeSurrogateMark_cons ..),
    bind_of_taken (takeSurrogateMark_cons ..), bind_of_taken (takeHex_of_code low),
    if_pos (by simp; omega), made, Char.ofNat_toNat]
  rfl

/-- An escape after its backslash. -/
theorem takeEscape_of_spelled {mark character : Char} {spelling others : List Char}
    (spelled : SpelledCharacter ('\\' :: mark :: spelling) character) :
    takeEscape (mark :: spelling ++ others) = .ok (character, others) := by
  cases spelled with
  | short known =>
      have known := shortEscape?_of_mem known
      have other : (mark == 'u') = false := by
        rw [beq_eq_false_iff_ne]
        rintro rfl
        contradiction
      rw [List.cons_append, takeEscape, bind_of_taken (peek_cons ..)]
      simp only [other, known]
      rfl
  | code code =>
      rw [List.cons_append, takeEscape, bind_of_taken (peek_cons ..)]
      exact takeCodePoint_of_code code
  | pair high highFits low lowFits number =>
      rw [List.cons_append, List.append_assoc, List.cons_append, List.cons_append, takeEscape,
        bind_of_taken (peek_cons ..)]
      exact takeCodePoint_of_pair high highFits low lowFits number

theorem SpelledCharacter.takeString {spelling rest others : List Char} {character : Char}
    {steps : Nat} {characters : List Char} (spelled : SpelledCharacter spelling character)
    (later : takeString steps others = .ok (characters, rest)) :
    Json.takeString (steps + 1) (spelling ++ others) = .ok (character :: characters, rest) := by
  have escape : ∀ mark more, SpelledCharacter ('\\' :: mark :: more) character →
      Json.takeString (steps + 1) ('\\' :: mark :: more ++ others) =
        .ok (character :: characters, rest) := by
    intro mark more spelled
    rw [Json.takeString, List.cons_append, bind_of_taken (peek_cons ..)]
    change (advance >>= fun _ => takeEscape >>= fun character =>
      Json.takeString steps >>= fun more => pure (character :: more)) _ = _
    rw [bind_of_taken (advance_cons ..), bind_of_taken (takeEscape_of_spelled spelled),
      bind_of_taken later]
    rfl
  cases spelled with
  | plain unquoted unescaped printable =>
      rw [Json.takeString, List.singleton_append, bind_of_taken (peek_cons ..)]
      simp only [beq_iff_eq, unquoted, unescaped, if_false, Nat.not_lt.mpr printable]
      rw [bind_of_taken (advance_cons ..), bind_of_taken later]
      rfl
  | short known => exact escape _ [] (.short known)
  | code code => exact escape _ _ (.code code)
  | pair high highFits low lowFits number =>
      exact escape _ _ (.pair high highFits low lowFits number)

theorem Spelled.takeString {spelling characters : List Char} (spelled : Spelled spelling characters)
    (rest : List Char) : ∀ steps, characters.length < steps →
      Json.takeString steps (spelling ++ '"' :: rest) = .ok (characters, rest) := by
  induction spelled with
  | nil =>
      intro steps enough
      obtain ⟨fewer, rfl⟩ := Nat.exists_eq_add_one_of_ne_zero (Nat.ne_zero_of_lt enough)
      rfl
  | cons first next inductionHypothesis =>
      intro steps enough
      obtain ⟨fewer, rfl⟩ := Nat.exists_eq_add_one_of_ne_zero (Nat.ne_zero_of_lt enough)
      rw [List.append_assoc]
      exact first.takeString (inductionHypothesis fewer (Nat.lt_of_succ_lt_succ enough))

theorem SpelledCharacter.length_pos {spelling : List Char} {character : Char}
    (spelled : SpelledCharacter spelling character) : 0 < spelling.length := by
  cases spelled <;> exact Nat.succ_pos _

theorem Spelled.length_le {spelling characters : List Char}
    (spelled : Spelled spelling characters) : characters.length ≤ spelling.length := by
  induction spelled with
  | nil => exact Nat.le_refl _
  | cons first next inductionHypothesis =>
      have positive := first.length_pos
      rw [List.length_cons, List.length_append]
      omega

/-- The body of a string is read as the characters that it spells. -/
theorem Spelled.stringBody {spelling : List Char} {text : String}
    (spelled : Spelled spelling text.toList) (rest : List Char) :
    Json.stringBody (spelling ++ '"' :: rest) = .ok (text, rest) := by
  have enough : text.toList.length < (spelling ++ '"' :: rest).length + 1 := by
    have short := spelled.length_le
    rw [List.length_append]
    omega
  rw [Json.stringBody]
  change (Json.takeString ((spelling ++ '"' :: rest).length + 1) >>= fun characters =>
    pure (String.ofList characters)) _ = _
  rw [bind_of_taken (spelled.takeString rest _ enough), String.ofList_toList]
  rfl

theorem Spelled.takeName {spelling : List Char} {text : String}
    (spelled : Spelled spelling text.toList) (rest : List Char) :
    Json.takeName ('"' :: (spelling ++ '"' :: rest)) = .ok (text, rest) := by
  rw [Json.takeName, bind_of_taken (advance_cons ..)]
  exact spelled.stringBody rest

/-! ### Quoting -/

theorem hexDigit_mem_hexDigits : ∀ value < 16, (Octets.hexDigit value, value) ∈ hexDigits := by
  decide

theorem hexCode_escapeControl {code : Nat} (control : code < 32) :
    HexCode ['0', '0', Octets.hexDigit (code / 16), Octets.hexDigit (code % 16)] code := by
  have digits : HexCode ['0', '0', Octets.hexDigit (code / 16), Octets.hexDigit (code % 16)]
      (((0 * 16 + 0) * 16 + code / 16) * 16 + code % 16) := by
    refine .digits ('0', 0) ('0', 0) (_, _) (_, _) ?_
    simp only [List.forall_mem_cons]
    exact ⟨hexDigit_mem_hexDigits 0 (by decide), hexDigit_mem_hexDigits 0 (by decide),
      hexDigit_mem_hexDigits _ (by omega), hexDigit_mem_hexDigits _ (by omega),
      List.forall_mem_nil _⟩
  rwa [show ((0 * 16 + 0) * 16 + code / 16) * 16 + code % 16 = code by omega] at digits

theorem spelledCharacter_escapeCharacter (character : Char) :
    SpelledCharacter (escapeCharacter character) character := by
  by_cases marked : character ∈ ['"', '\\', '\x08', '\t', '\n', '\x0c', '\r']
  · have each : ∀ known ∈ ['"', '\\', '\x08', '\t', '\n', '\x0c', '\r'],
        SpelledCharacter (escapeCharacter known) known := by
      have short (mark character : Char) (known : (mark, character) ∈ shortEscapes) :
          SpelledCharacter ['\\', mark] character := .short known
      simp only [List.forall_mem_cons]
      exact ⟨short '"' _ (by decide), short '\\' _ (by decide), short 'b' _ (by decide),
        short 't' _ (by decide), short 'n' _ (by decide), short 'f' _ (by decide),
        short 'r' _ (by decide), List.forall_mem_nil _⟩
    exact each character marked
  · simp only [List.mem_cons, List.not_mem_nil, not_or, or_false] at marked
    simp only [escapeCharacter, beq_iff_eq, marked, if_false]
    by_cases control : character.toNat < 32
    · rw [if_pos control]
      exact .code (hexCode_escapeControl control)
    · rw [if_neg control]
      exact .plain marked.1 marked.2.1 (Nat.not_lt.mp control)

/-- A quoted text spells its characters. -/
theorem spelled_flatMap_escapeCharacter (characters : List Char) :
    Spelled (characters.flatMap escapeCharacter) characters := by
  induction characters with
  | nil => exact .nil
  | cons first others inductionHypothesis =>
      rw [List.flatMap_cons]
      exact .cons (spelledCharacter_escapeCharacter first) inductionHypothesis

theorem quote_append (text : String) (rest : List Char) :
    quote text ++ rest = '"' :: (text.toList.flatMap escapeCharacter ++ '"' :: rest) := by
  rw [quote, List.append_assoc]
  rfl

theorem Spelled.takes_readStringAs {spelling : List Char} {text : String}
    (spelled : Spelled spelling text.toList) (expected : String) :
    Takes (readStringAs expected) ('"' :: (spelling ++ ['"'])) text := by
  intro gap rest blank follows
  rw [List.cons_append, List.append_assoc, readStringAs, bind_of_taken (peekToken_gap blank rfl)]
  exact spelled.takeName rest

theorem takes_readStringAs (expected text : String) :
    Takes (readStringAs expected) (quote text) text :=
  (spelled_flatMap_escapeCharacter text.toList).takes_readStringAs expected

/-! ## Optional values and whole texts -/

/-- A value whose text does not start like a null is taken as a value that is there. -/
theorem Takes.readOptional {reader : Reader α} {text others : List Char} {value : α} {first : Char}
    (takes : Takes reader text value) (starts : text = first :: others)
    (solid : isGap first = false) (other : first ≠ 'n') :
    Takes (readOptional reader) text (some value) := by
  intro gap rest blank follows
  have taken := takes [] rest gap_nil follows
  rw [starts, List.cons_append, List.nil_append] at taken
  rw [starts, List.cons_append, Json.readOptional, bind_of_taken (peekToken_gap blank solid)]
  simp only [Option.some.injEq, other, imp_self]
  rw [bind_of_taken taken]
  rfl

/-- The text of a value, with blanks before and after it, is read as a whole. -/
theorem Takes.readWhole {reader : Reader α} {text gap other : List Char} {value : α}
    (takes : Takes reader text value) (before : Gap gap) (after : Gap other) :
    readWhole reader (gap ++ (text ++ other)) = .ok value := by
  rw [Json.readWhole]
  change (Prod.fst <$> (reader >>= fun value => peekToken >>= _) _) = _
  rw [bind_of_taken (takes gap other before after.follows), bind_of_taken (peekToken_end after)]
  rfl

end BankLedger.Json
