import BankLedger.Proofs.Text.Octets
import BankLedger.Sql.ArrayOctets

/-!
# Offsets between characters

The loops of a scan over octets can stop at no octet but that of an ASCII character, and an octet
that goes on with a character is none of these.  So an offset in the middle of a character moves on
to the next character without anything being read or cut, and wherever something is read or cut the
offset is that of a remainder of characters.
-/

namespace BankLedger.Sql.ArrayLiteral.Octetwise

open BankLedger.Text Octets

/-! ## The octets of a character -/

/-- How a character is encoded: by an octet that goes on with no character, which is that of an
ASCII character only for this character itself, and by octets that go on with it. -/
structure Encodes (character : Char) (lead : UInt8) (others : Octets) : Prop where
  octets : String.utf8EncodeChar character = lead :: others
  starts : isContinuation lead = false
  continues : ∀ octet ∈ others, isContinuation octet = true
  ascii : ∀ other : Char, other.toNat < 0x80 → (lead == octetOf other) = (character == other)

theorem toNat_octetOf {character : Char} (ascii : character.toNat < 0x80) :
    (octetOf character).toNat = character.toNat :=
  toNat_octet (by omega)

theorem exists_encodes (character : Char) : ∃ lead others, Encodes character lead others := by
  by_cases ascii : character.toNat < 0x80
  case pos =>
    refine ⟨octetOf character, [], utf8EncodeChar_of_ascii ascii, ?_, by simp, ?_⟩
    · rw [isContinuation, toNat_octetOf ascii, decide_eq_false (Nat.not_le.mpr ascii),
        Bool.false_and]
    · intro other asciiToo
      rw [Bool.eq_iff_iff, beq_iff_eq, beq_iff_eq, ← UInt8.toNat_inj, toNat_octetOf ascii,
        toNat_octetOf asciiToo, Char.toNat_inj]
  case neg =>
    obtain ⟨lead, others, octets, large, continues⟩ :=
      utf8EncodeChar_of_wide (Nat.not_lt.mp ascii)
    refine ⟨lead, others, octets, ?_, ?_, ?_⟩
    · simp [isContinuation, large]
    · intro octet member
      simpa [isContinuation] using continues octet member
    · intro other asciiToo
      rw [Bool.eq_iff_iff, beq_iff_eq, beq_iff_eq]
      constructor
      · rintro rfl
        rw [toNat_octetOf asciiToo] at large
        omega
      · rintro rfl
        contradiction

theorem ne_octetOf_of_isContinuation {octet : UInt8} (continues : isContinuation octet = true)
    {other : Char} (ascii : other.toNat < 0x80) : (octet == octetOf other) = false := by
  refine beq_false_of_ne ?_
  rintro rfl
  simp only [isContinuation, toNat_octetOf ascii, Bool.and_eq_true, decide_eq_true_eq] at continues
  omega

theorem Encodes.isBlankOctet_eq {character : Char} {lead : UInt8} {others : Octets}
    (encodes : Encodes character lead others) : isBlankOctet lead = isAsciiBlank character := by
  simp only [isBlankOctet, isAsciiBlank, encodes.ascii _ (by decide : ' '.toNat < 0x80),
    encodes.ascii _ (by decide : '\t'.toNat < 0x80),
    encodes.ascii _ (by decide : '\n'.toNat < 0x80),
    encodes.ascii _ (by decide : '\x0c'.toNat < 0x80),
    encodes.ascii _ (by decide : '\r'.toNat < 0x80)]

/-! ## Offsets of remainders -/

theorem octetCount_append (front rest : List Char) :
    octetCount (front ++ rest) = octetCount front + octetCount rest := by
  rw [← length_ofCharacters, ofCharacters_append, List.length_append, length_ofCharacters,
    length_ofCharacters]

/-- The offset at which a remainder of a text starts. -/
def offsetOf (whole rest : List Char) : Nat :=
  octetCount whole - octetCount rest

theorem offsetOf_append (front rest : List Char) :
    offsetOf (front ++ rest) rest = octetCount front := by
  rw [offsetOf, octetCount_append, Nat.add_sub_cancel]

section

variable {whole rest : List Char}

/-- From the offset of a remainder on a text has the octets of the remainder. -/
theorem drop_offsetOf (suffix : rest <:+ whole) :
    (ofCharacters whole).drop (offsetOf whole rest) = ofCharacters rest := by
  obtain ⟨front, rfl⟩ := suffix
  rw [offsetOf_append, ofCharacters_append, ← length_ofCharacters, List.drop_left]

theorem getElem?_offsetOf (suffix : rest <:+ whole) (index : Nat) :
    (ofCharacters whole)[offsetOf whole rest + index]? = (ofCharacters rest)[index]? := by
  rw [← drop_offsetOf suffix, List.getElem?_drop]

theorem peek_nil (whole : List Char) : (ofCharacters whole)[offsetOf whole []]? = none :=
  getElem?_offsetOf (List.nil_suffix) 0

variable {character : Char} {lead : UInt8} {others : Octets}

theorem peek_cons (encodes : Encodes character lead others) (suffix : character :: rest <:+ whole) :
    (ofCharacters whole)[offsetOf whole (character :: rest)]? = some lead := by
  have found := getElem?_offsetOf suffix 0
  rwa [ofCharacters_cons, encodes.octets] at found

theorem offsetOf_cons (encodes : Encodes character lead others)
    (suffix : character :: rest <:+ whole) :
    offsetOf whole rest = offsetOf whole (character :: rest) + 1 + others.length := by
  obtain ⟨front, rfl⟩ := suffix
  have size : octetCount [character] = others.length + 1 := by
    rw [← length_ofCharacters, ofCharacters_cons, encodes.octets, ofCharacters_nil,
      List.append_nil, List.length_cons]
  have start := offsetOf_append front (character :: rest)
  have next := offsetOf_append (front ++ [character]) rest
  rw [octetCount_append, size, ← List.append_cons] at next
  omega

/-- An ASCII character takes one octet. -/
theorem offsetOf_ascii (ascii : character.toNat < 0x80) (suffix : character :: rest <:+ whole) :
    offsetOf whole rest = offsetOf whole (character :: rest) + 1 := by
  obtain ⟨front, rfl⟩ := suffix
  have size : octetCount [character] = 1 := by
    rw [← length_ofCharacters, ofCharacters_cons, utf8EncodeChar_of_ascii ascii]
    rfl
  have start := offsetOf_append front (character :: rest)
  have next := offsetOf_append (front ++ [character]) rest
  rw [octetCount_append, size, ← List.append_cons] at next
  omega

/-- What passes over every octet that goes on with a character does not stop behind the first octet
of a character, but at the next character. -/
theorem passes {α : Type} (read : Nat → α)
    (steps : ∀ offset octet, (ofCharacters whole)[offset]? = some octet →
      isContinuation octet = true → read offset = read (offset + 1))
    (suffix : character :: rest <:+ whole) :
    read (offsetOf whole (character :: rest) + 1) = read (offsetOf whole rest) := by
  obtain ⟨lead, others, encodes⟩ := exists_encodes character
  have within : ∀ count ≤ others.length, read (offsetOf whole (character :: rest) + 1) =
      read (offsetOf whole (character :: rest) + 1 + count) := by
    intro count bound
    induction count with
    | zero => rfl
    | succ count inductionHypothesis =>
        have here : (ofCharacters whole)[offsetOf whole (character :: rest) + 1 + count]? =
            some others[count] := by
          rw [Nat.add_assoc, Nat.add_comm 1, getElem?_offsetOf suffix, ofCharacters_cons,
            encodes.octets, List.cons_append, List.getElem?_cons_succ,
            List.getElem?_append_left bound, List.getElem?_eq_getElem bound]
        rw [inductionHypothesis (Nat.le_of_succ_le bound), steps _ _ here
          (encodes.continues _ (List.getElem_mem bound))]
        rfl
  rw [within others.length (Nat.le_refl _), ← offsetOf_cons encodes suffix]

/-! ## Cutting -/

theorem isBoundary_offsetOf (suffix : rest <:+ whole) :
    isBoundary (ofCharacters whole) (offsetOf whole rest) = true := by
  cases rest with
  | nil =>
      rw [isBoundary, peek_nil, length_ofCharacters]
      simp [offsetOf, octetCount]
  | cons character others =>
      obtain ⟨lead, _, encodes⟩ := exists_encodes character
      rw [isBoundary, peek_cons encodes suffix]
      simp [encodes.starts]

/-- A cut from a remainder to a later one gives the characters between them. -/
theorem cut_offsetOf {written : List Char} (suffix : written ++ rest <:+ whole) :
    cut (ofCharacters whole) (offsetOf whole (written ++ rest)) (offsetOf whole rest) =
      pure written := by
  have suffixRest : rest <:+ whole := (List.suffix_append written rest).trans suffix
  have between : offsetOf whole rest =
      offsetOf whole (written ++ rest) + octetCount written := by
    obtain ⟨front, rfl⟩ := suffix
    rw [offsetOf_append, ← List.append_assoc, offsetOf_append, octetCount_append]
  have part : ((ofCharacters whole).drop (offsetOf whole (written ++ rest))).take
      (octetCount written) = ofCharacters written := by
    rw [drop_offsetOf suffix, ofCharacters_append, ← length_ofCharacters, List.take_left]
  rw [cut, isBoundary_offsetOf suffix, isBoundary_offsetOf suffixRest, between,
    Nat.add_sub_cancel_left, part, toText?_ofCharacters]
  simp

/-- A cut from a remainder to the end of the text gives the remainder. -/
theorem cut_to_end (suffix : rest <:+ whole) :
    cut (ofCharacters whole) (offsetOf whole rest) (ofCharacters whole).length = pure rest := by
  have last : offsetOf whole [] = (ofCharacters whole).length := by
    rw [length_ofCharacters]
    rfl
  have all : rest ++ [] <:+ whole := by rwa [List.append_nil]
  have taken := cut_offsetOf all
  rwa [List.append_nil, last] at taken

end

/-! ## Finding -/

/-- An ASCII character is found where it stands. -/
theorem idxOf?_ofCharacters {character : Char} (ascii : character.toNat < 0x80)
    (characters : List Char) :
    (ofCharacters characters).idxOf? (octetOf character) =
      if character ∈ characters then some (octetCount (characters.takeWhile (· != character)))
      else none := by
  rw [List.idxOf?]
  induction characters with
  | nil => rfl
  | cons first others inductionHypothesis =>
      rw [ofCharacters_cons, List.findIdx?_append, inductionHypothesis]
      by_cases same : first = character
      case pos =>
        subst same
        rw [utf8EncodeChar_of_ascii ascii]
        simp [octetOf, octetCount]
      case neg =>
        have absent : (String.utf8EncodeChar first).findIdx? (· == octetOf character) = none := by
          obtain ⟨lead, continued, encodes⟩ := exists_encodes first
          rw [List.findIdx?_eq_none_iff, encodes.octets, List.forall_mem_cons,
            encodes.ascii character ascii]
          exact ⟨beq_false_of_ne same, fun octet member =>
            ne_octetOf_of_isContinuation (encodes.continues octet member) ascii⟩
        rw [absent, String.length_utf8EncodeChar]
        simp only [Option.none_or, List.mem_cons, Ne.symm same, false_or]
        split <;> simp [octetCount, same, Nat.add_comm]

/-- The cut behind an ASCII character gives all that follows it. -/
theorem cut_behind {character : Char} (ascii : character.toNat < 0x80) (front after : List Char) :
    cut (ofCharacters (front ++ character :: after)) (octetCount front + 1)
      (ofCharacters (front ++ character :: after)).length = pure after := by
  have suffix : character :: after <:+ front ++ character :: after := List.suffix_append _ _
  rw [← offsetOf_append front (character :: after), ← offsetOf_ascii ascii suffix]
  exact cut_to_end ((List.suffix_cons _ _).trans suffix)

end BankLedger.Sql.ArrayLiteral.Octetwise
