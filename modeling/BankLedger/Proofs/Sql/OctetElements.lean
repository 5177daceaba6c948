import BankLedger.Proofs.Sql.ArrayElements
import BankLedger.Proofs.Sql.OctetOffsets

/-!
# Reading elements from octets

A loop over octets takes its turns until one of them gives a result.  At the offset of a remainder
of characters it does what the scan over characters does with that remainder: it stops where that
one stops, cuts out what that one has read, and reports what that one reports.
-/

namespace BankLedger.Sql.ArrayLiteral.Octetwise

open BankLedger.Text Octets

/-! ## Loops -/

theorem mem_loop_iff {σ α : Type} {turn : σ → Scan (α ⊕ σ)} {state : σ}
    {outcome : Except Abort α} :
    outcome ∈ (loop turn state).run ↔ ∃ given ∈ (turn state).run,
      match given with
      | .error abort => outcome = .error abort
      | .ok (.inl result) => outcome = .ok result
      | .ok (.inr next) => outcome ∈ (loop turn next).run := by
  have turns : outcome ∈ (loop turn state).run ↔
      .inl outcome ∈ taken turn state ∨
        ∃ next, .inr next ∈ taken turn state ∧ outcome ∈ (loop turn next).run := PFun.mem_fix_iff
  rw [turns]
  simp only [taken, Part.mem_map_iff]
  constructor
  · rintro (⟨given, member, same⟩ | ⟨next, ⟨given, member, same⟩, later⟩)
    · refine ⟨given, member, ?_⟩
      rcases given with abort | result | next
      · cases same
        rfl
      · cases same
        rfl
      · cases same
    · refine ⟨given, member, ?_⟩
      rcases given with abort | result | next
      · cases same
      · cases same
      · cases same
        exact later
  · rintro ⟨given, member, outcomes⟩
    rcases given with abort | result | next
    · exact .inl ⟨_, member, by rw [outcomes]; rfl⟩
    · exact .inl ⟨_, member, by rw [outcomes]; rfl⟩
    · exact .inr ⟨next, ⟨_, member, rfl⟩, outcomes⟩

/-- A loop takes one turn, and goes on with the state that the turn gives, if it gives one. -/
theorem loop_eq {σ α : Type} (turn : σ → Scan (α ⊕ σ)) (state : σ) :
    loop turn state = turn state >>= Sum.elim pure (loop turn) := by
  apply Part.ext
  intro outcome
  refine mem_loop_iff.trans (Iff.trans ?_ Part.mem_bind_iff.symm)
  apply exists_congr
  intro given
  apply and_congr_right
  intro _
  rcases given with abort | result | next
  · exact Part.mem_some_iff.symm
  · exact Part.mem_some_iff.symm
  · exact Iff.rfl

theorem throw_bind {α β : Type} (abort : Abort) (next : α → Scan β) :
    (throw abort : Scan α) >>= next = throw abort := by
  apply ExceptT.ext
  simp

theorem skipBlanks_eq (text : Octets) (offset : Nat) :
    skipBlanks text offset =
      match text[offset]? with
      | none => pure offset
      | some octet => if isBlankOctet octet then skipBlanks text (offset + 1) else pure offset := by
  rw [skipBlanks, loop_eq]
  cases text[offset]? with
  | none => exact pure_bind ..
  | some octet => cases blank : isBlankOctet octet <;> simp [blank]

theorem closingQuote_eq (text : Octets) (opening offset : Nat) (escaped : Bool) :
    closingQuote text opening (offset, escaped) =
      match text[offset]? with
      | none => throw (.refused (.unterminatedQuote opening))
      | some octet =>
          if octet == octetOf '\\' then
            match text[offset + 1]? with
            | none => throw (.refused (.unterminatedQuote opening))
            | some _ => closingQuote text opening (offset + 2, true)
          else if octet == octetOf '"' then pure (offset, escaped)
          else closingQuote text opening (offset + 1, escaped) := by
  rw [closingQuote, loop_eq]
  dsimp only
  cases text[offset]? with
  | none => exact throw_bind ..
  | some octet =>
      dsimp only
      cases octet == octetOf '\\' with
      | true =>
          cases text[offset + 1]? with
          | none => exact throw_bind ..
          | some next => exact pure_bind ..
      | false => cases octet == octetOf '"' <;> exact pure_bind ..

theorem unquotedEnd_eq (text : Octets) (offset : Nat) (escaped : Bool) :
    unquotedEnd text (offset, escaped) =
      match text[offset]? with
      | none => pure (offset, escaped)
      | some octet =>
          if octet == octetOf ',' || octet == octetOf '\x7d' then pure (offset, escaped)
          else if octet == octetOf '\x7b' || octet == octetOf '"' then unexpected text offset
          else if octet == octetOf '\\' then
            match text[offset + 1]? with
            | none => throw (.refused .unexpectedEnd)
            | some _ => unquotedEnd text (offset + 2, true)
          else unquotedEnd text (offset + 1, escaped) := by
  rw [unquotedEnd, loop_eq]
  dsimp only
  cases text[offset]? with
  | none => exact pure_bind ..
  | some octet =>
      dsimp only
      split
      case isTrue => exact pure_bind ..
      case isFalse =>
        split
        case isTrue =>
          rw [unexpected, unexpected, bind_assoc]
          congr
          funext left
          cases left <;> exact throw_bind ..
        case isFalse =>
          split
          case isTrue =>
            cases text[offset + 1]? with
            | none => exact throw_bind ..
            | some next => exact pure_bind ..
          case isFalse => exact pure_bind ..

theorem items_eq (text : Octets) (depth : Nat) (elements : List Element) (offset : Nat) :
    items text ⟨depth, elements, offset⟩ = (do
      let offset ← skipBlanks text offset
      match text[offset]? with
      | none => throw (.refused .unexpectedEnd)
      | some octet =>
          if octet == octetOf '\x7b' then items text ⟨depth + 1, elements, offset + 1⟩
          else if octet == octetOf '\x7d' then
            match depth with
            | 0 => throw .depthBelowZero
            | outer + 1 =>
                if outer == 0 then pure (elements, offset + 1)
                else
                  let next ← skipDelimiter text (offset + 1)
                  items text ⟨outer, elements, next⟩
          else
            let (element, stop) ← element text offset
            let next ← skipDelimiter text stop
            items text ⟨depth, elements ++ [element], next⟩) := by
  rw [items, loop_eq]
  dsimp only
  rw [bind_assoc]
  congr
  funext offset
  cases text[offset]? with
  | none => exact throw_bind ..
  | some octet =>
      dsimp only
      split
      case isTrue => exact pure_bind ..
      case isFalse =>
        split
        case isTrue =>
          cases depth with
          | zero => exact throw_bind ..
          | succ outer =>
              dsimp only
              split
              case isTrue => exact pure_bind ..
              case isFalse => simp only [bind_assoc, pure_bind, Sum.elim_inr]
        case isFalse => simp only [bind_assoc, pure_bind, Sum.elim_inr]

/-! ## Outcomes -/

/-- The scan that ends with an outcome. -/
def conclude {α : Type} (outcome : Except Failure α) : Scan α :=
  ExceptT.mk (.some (outcome.mapError .refused))

theorem conclude_ok {α : Type} (result : α) : conclude (.ok result) = pure result := rfl

theorem conclude_error {α : Type} (failure : Failure) :
    (conclude (.error failure) : Scan α) = throw (.refused failure) := rfl

/-- The outcome of a scan over characters, as it is reported by one over their octets. -/
def report {α : Type} (whole : List Char) (outcome : Except Stop α) : Scan α :=
  conclude (outcome.mapError fun stop => stop.failure whole)

section

variable {α : Type} {whole : List Char}

theorem report_ok (result : α) : report whole (.ok result) = pure result := rfl

variable {rest : List Char}

theorem unexpected_offsetOf (suffix : rest <:+ whole) :
    (unexpected (ofCharacters whole) (offsetOf whole rest) : Scan α) =
      report whole (.error (.unexpected rest)) := by
  rw [unexpected, cut_to_end suffix, pure_bind]
  cases rest with
  | nil => rfl
  | cons character others => rfl

end

/-! ## Blanks and delimiters -/

section

variable {whole rest : List Char}

theorem skipBlanks_offsetOf (suffix : rest <:+ whole) :
    skipBlanks (ofCharacters whole) (offsetOf whole rest) =
      pure (offsetOf whole (ArrayLiteral.skipBlanks rest)) := by
  induction rest with
  | nil =>
      rw [skipBlanks_eq, peek_nil]
      rfl
  | cons character others inductionHypothesis =>
      obtain ⟨lead, _, encodes⟩ := exists_encodes character
      rw [skipBlanks_eq, peek_cons encodes suffix]
      dsimp only
      rw [encodes.isBlankOctet_eq]
      cases blank : isAsciiBlank character with
      | true =>
          have ascii : character.toNat < 0x80 := by
            simp only [isAsciiBlank, Bool.or_eq_true, beq_iff_eq] at blank
            rcases blank with (((rfl | rfl) | rfl) | rfl) | rfl <;> decide
          have suffixOthers : others <:+ whole := (List.suffix_cons character others).trans suffix
          have blanks : Blanks [character] := by simpa [Blanks] using blank
          rw [if_pos rfl, ← offsetOf_ascii ascii suffix, inductionHypothesis suffixOthers,
            ← List.singleton_append, skipBlanks_append blanks]
      | false => rw [if_neg Bool.false_ne_true, skipBlanks_cons blank]

theorem skipDelimiter_offsetOf (suffix : rest <:+ whole) :
    skipDelimiter (ofCharacters whole) (offsetOf whole rest) =
      report whole ((ArrayLiteral.skipDelimiter rest).map (offsetOf whole)) := by
  have suffixNext := (skipBlanks_suffix rest).trans suffix
  rw [skipDelimiter, skipBlanks_offsetOf suffix, pure_bind, ArrayLiteral.skipDelimiter.eq_def]
  generalize ArrayLiteral.skipBlanks rest = next at suffixNext
  cases next with
  | nil =>
      rw [peek_nil]
      exact unexpected_offsetOf suffixNext
  | cons character others =>
      obtain ⟨lead, _, encodes⟩ := exists_encodes character
      rw [peek_cons encodes suffixNext]
      dsimp only
      rw [encodes.ascii ',' (by decide), encodes.ascii '\x7d' (by decide)]
      by_cases comma : character = ','
      case pos =>
        subst comma
        rw [← offsetOf_ascii (by decide) suffixNext]
        rfl
      case neg =>
        by_cases brace : character = '\x7d'
        case pos =>
          subst brace
          rfl
        case neg =>
          simp only [beq_false_of_ne comma, beq_false_of_ne brace, Bool.false_eq_true, if_false]
          rw [unexpected_offsetOf suffixNext]
          split
          case h_1 same => exact absurd (List.cons.inj same).1 comma
          case h_2 same => exact absurd (List.cons.inj same).1 brace
          case h_3 => rfl

/-! ## Elements -/

/-- The scan for a closing quote passes over an octet that goes on with a character. -/
theorem closingQuote_of_isContinuation {text : Octets} {offset : Nat} {octet : UInt8}
    (here : text[offset]? = some octet) (continues : isContinuation octet = true) (opening : Nat)
    (escaped : Bool) :
    closingQuote text opening (offset, escaped) = closingQuote text opening (offset + 1, escaped) := by
  rw [closingQuote_eq, here]
  dsimp only
  rw [ne_octetOf_of_isContinuation continues (by decide),
    ne_octetOf_of_isContinuation continues (by decide)]
  rfl

theorem closingQuote_passes {character : Char} (suffix : character :: rest <:+ whole)
    (opening : Nat) (escaped : Bool) :
    closingQuote (ofCharacters whole) opening (offsetOf whole (character :: rest) + 1, escaped) =
      closingQuote (ofCharacters whole) opening (offsetOf whole rest, escaped) :=
  passes (fun offset => closingQuote (ofCharacters whole) opening (offset, escaped))
    (fun _ _ here continues => closingQuote_of_isContinuation here continues opening escaped) suffix

/-- At a character the scan for a closing quote decides by the character.  The octet behind a
backslash is passed over, and with it the character that it starts. -/
theorem closingQuote_cons {character : Char} (suffix : character :: rest <:+ whole) (opening : Nat)
    (escaped : Bool) :
    closingQuote (ofCharacters whole) opening (offsetOf whole (character :: rest), escaped) =
      if character == '\\' then
        match rest with
        | [] => throw (.refused (.unterminatedQuote opening))
        | _ :: after => closingQuote (ofCharacters whole) opening (offsetOf whole after, true)
      else if character == '"' then pure (offsetOf whole (character :: rest), escaped)
      else closingQuote (ofCharacters whole) opening (offsetOf whole rest, escaped) := by
  obtain ⟨lead, _, encodes⟩ := exists_encodes character
  rw [closingQuote_eq, peek_cons encodes suffix, closingQuote_passes suffix]
  dsimp only
  rw [encodes.ascii '\\' (by decide), encodes.ascii '"' (by decide)]
  by_cases backslash : character = '\\'
  case neg => simp only [beq_false_of_ne backslash, Bool.false_eq_true, if_false]
  case pos =>
    subst backslash
    rw [← Nat.add_assoc _ 1 1, ← offsetOf_ascii (by decide) suffix]
    cases rest with
    | nil => rw [peek_nil]
    | cons next after =>
        obtain ⟨second, _, encodesNext⟩ := exists_encodes next
        have suffixNext : next :: after <:+ whole := (List.suffix_cons _ _).trans suffix
        rw [peek_cons encodesNext suffixNext, closingQuote_passes suffixNext]

/-- The closing quote is found where the scan over characters finds it. -/
theorem closingQuote_offsetOf (suffix : rest <:+ whole) (opening : Nat) (escaped : Bool) :
    closingQuote (ofCharacters whole) opening (offsetOf whole rest, escaped) =
      match takeQuoted rest with
      | none => throw (.refused (.unterminatedQuote opening))
      | some (written, after) =>
          pure (offsetOf whole ('"' :: after), escaped || written.contains '\\') := by
  fun_induction takeQuoted rest generalizing escaped with
  | case1 => rw [closingQuote_eq, peek_nil]
  | case2 after =>
      rw [closingQuote_cons suffix]
      simp
  | case3 =>
      rw [closingQuote_cons suffix]
      rfl
  | case4 character after inductionHypothesis =>
      have suffixAfter : after <:+ whole :=
        (List.suffix_cons _ _).trans ((List.suffix_cons _ _).trans suffix)
      rw [closingQuote_cons suffix]
      change closingQuote (ofCharacters whole) opening (offsetOf whole after, true) = _
      rw [inductionHypothesis suffixAfter]
      cases takeQuoted after with
      | none => rfl
      | some pair => simp
  | case5 character after notQuote notLast notEscape inductionHypothesis =>
      have suffixAfter : after <:+ whole := (List.suffix_cons _ _).trans suffix
      have other := ne_backslash notLast notEscape
      rw [closingQuote_cons suffix, beq_false_of_ne other, beq_false_of_ne notQuote,
        if_neg Bool.false_ne_true, if_neg Bool.false_ne_true, inductionHypothesis suffixAfter]
      cases takeQuoted after with
      | none => rfl
      | some pair => simp [other.symm]

/-- The scan for the end of an element passes over an octet that goes on with a character. -/
theorem unquotedEnd_of_isContinuation {text : Octets} {offset : Nat} {octet : UInt8}
    (here : text[offset]? = some octet) (continues : isContinuation octet = true)
    (escaped : Bool) : unquotedEnd text (offset, escaped) = unquotedEnd text (offset + 1, escaped) := by
  rw [unquotedEnd_eq, here]
  dsimp only
  simp (disch := decide) only [ne_octetOf_of_isContinuation continues, Bool.or_self,
    Bool.false_eq_true, if_false]

theorem unquotedEnd_passes {character : Char} (suffix : character :: rest <:+ whole)
    (escaped : Bool) :
    unquotedEnd (ofCharacters whole) (offsetOf whole (character :: rest) + 1, escaped) =
      unquotedEnd (ofCharacters whole) (offsetOf whole rest, escaped) :=
  passes (fun offset => unquotedEnd (ofCharacters whole) (offset, escaped))
    (fun _ _ here continues => unquotedEnd_of_isContinuation here continues escaped) suffix

/-- At a character the scan for the end of an element decides by the character. -/
theorem unquotedEnd_cons {character : Char} (suffix : character :: rest <:+ whole)
    (escaped : Bool) :
    unquotedEnd (ofCharacters whole) (offsetOf whole (character :: rest), escaped) =
      if character == ',' || character == '\x7d' then
        pure (offsetOf whole (character :: rest), escaped)
      else if character == '\x7b' || character == '"' then
        report whole (.error (.unexpected (character :: rest)))
      else if character == '\\' then
        match rest with
        | [] => throw (.refused .unexpectedEnd)
        | _ :: after => unquotedEnd (ofCharacters whole) (offsetOf whole after, true)
      else unquotedEnd (ofCharacters whole) (offsetOf whole rest, escaped) := by
  obtain ⟨lead, _, encodes⟩ := exists_encodes character
  rw [unquotedEnd_eq, peek_cons encodes suffix, unexpected_offsetOf suffix, unquotedEnd_passes suffix]
  dsimp only
  rw [encodes.ascii ',' (by decide), encodes.ascii '\x7d' (by decide),
    encodes.ascii '\x7b' (by decide), encodes.ascii '"' (by decide),
    encodes.ascii '\\' (by decide)]
  by_cases backslash : character = '\\'
  case neg => simp only [beq_false_of_ne backslash, Bool.false_eq_true, if_false]
  case pos =>
    subst backslash
    rw [← Nat.add_assoc _ 1 1, ← offsetOf_ascii (by decide) suffix]
    cases rest with
    | nil => rw [peek_nil]
    | cons next after =>
        obtain ⟨second, _, encodesNext⟩ := exists_encodes next
        have suffixNext : next :: after <:+ whole := (List.suffix_cons _ _).trans suffix
        rw [peek_cons encodesNext suffixNext, unquotedEnd_passes suffixNext]

/-- An element without quotes ends where the scan over characters ends it. -/
theorem unquotedEnd_offsetOf (suffix : rest <:+ whole) (escaped : Bool) :
    unquotedEnd (ofCharacters whole) (offsetOf whole rest, escaped) =
      report whole ((takeUnquoted rest).map fun (written, after) =>
        (offsetOf whole after, escaped || written.contains '\\')) := by
  fun_induction takeUnquoted rest generalizing escaped with
  | case1 =>
      rw [unquotedEnd_eq, peek_nil]
      simp [Except.map, report_ok]
  | case2 after =>
      rw [unquotedEnd_cons suffix]
      simp [Except.map, report_ok]
  | case3 after =>
      rw [unquotedEnd_cons suffix]
      simp [Except.map, report_ok]
  | case4 after =>
      rw [unquotedEnd_cons suffix]
      rfl
  | case5 after =>
      rw [unquotedEnd_cons suffix]
      rfl
  | case6 =>
      rw [unquotedEnd_cons suffix]
      rfl
  | case7 character after inductionHypothesis =>
      have suffixAfter : after <:+ whole :=
        (List.suffix_cons _ _).trans ((List.suffix_cons _ _).trans suffix)
      rw [unquotedEnd_cons suffix]
      change unquotedEnd (ofCharacters whole) (offsetOf whole after, true) = _
      rw [inductionHypothesis suffixAfter]
      cases takeUnquoted after with
      | error stop => rfl
      | ok pair => simp [Except.map]
  | case8 character after notComma notClosing notOpening notQuote notLast notEscape
      inductionHypothesis =>
      have suffixAfter : after <:+ whole := (List.suffix_cons _ _).trans suffix
      have other := ne_backslash notLast notEscape
      rw [unquotedEnd_cons suffix, beq_false_of_ne notComma, beq_false_of_ne notClosing,
        beq_false_of_ne notOpening, beq_false_of_ne notQuote, beq_false_of_ne other]
      change unquotedEnd (ofCharacters whole) (offsetOf whole after, escaped) = _
      rw [inductionHypothesis suffixAfter]
      cases takeUnquoted after with
      | error stop => rfl
      | ok pair => simp [Except.map, other.symm]

end

/-- Removing the backslashes that were seen removes all of them. -/
theorem elementText_eq (raw : List Char) :
    elementText raw (raw.contains '\\') = String.ofList (unescape raw) := by
  rw [elementText]
  split
  case isTrue => rfl
  case isFalse unprotected =>
    rw [unescape_of_unprotected fun member => unprotected (List.contains_iff_mem.mpr member)]

theorem contains_trim (written : List Char) :
    written.contains '\\' = (trim written).contains '\\' := by
  rw [Bool.eq_iff_iff, List.contains_iff_mem, List.contains_iff_mem, mem_trim_iff (by decide)]

section

variable {whole rest : List Char}

/-- An element without quotes, up to what is left behind it. -/
theorem unquoted_offsetOf (suffix : rest <:+ whole) :
    unquoted (ofCharacters whole) (offsetOf whole rest) =
      report whole ((takeUnquoted rest).bind fun (written, after) =>
        if (trim written).isEmpty then .error (.unexpected after)
        else .ok (unquotedElement (trim written), offsetOf whole after)) := by
  rw [unquoted, unquotedEnd_offsetOf suffix]
  cases taken : takeUnquoted rest with
  | error stop => exact throw_bind ..
  | ok pair =>
      obtain ⟨written, after⟩ := pair
      have split := append_takeUnquoted taken
      subst split
      have suffixAfter : after <:+ whole := (List.suffix_append _ _).trans suffix
      simp only [Except.map, Except.bind, report_ok, pure_bind, Bool.false_or, cut_offsetOf suffix,
        unexpected_offsetOf suffixAfter, contains_trim written, elementText_eq]
      split
      case isTrue => rfl
      case isFalse =>
        rw [report_ok, unquotedElement]
        split <;> rfl

theorem quoted_offsetOf (suffix : '"' :: rest <:+ whole) :
    quoted (ofCharacters whole) (offsetOf whole ('"' :: rest)) =
      match takeQuoted rest with
      | none => report whole (.error (.unterminated ('"' :: rest)))
      | some (written, after) =>
          pure (.text (String.ofList (unescape written)), offsetOf whole after) := by
  have suffixRest : rest <:+ whole := (List.suffix_cons _ _).trans suffix
  rw [quoted, ← offsetOf_ascii (by decide) suffix, closingQuote_offsetOf suffixRest]
  cases taken : takeQuoted rest with
  | none => exact throw_bind ..
  | some pair =>
      obtain ⟨written, after⟩ := pair
      obtain ⟨rfl, _⟩ := spells_of_takeQuoted taken
      have suffixQuote : '"' :: after <:+ whole := (List.suffix_append _ _).trans suffixRest
      simp only [pure_bind, cut_offsetOf suffixRest, Bool.false_or, elementText_eq,
        ← offsetOf_ascii (by decide) suffixQuote]

/-- An element is read as the scan over characters reads it. -/
theorem element_offsetOf {character : Char} (suffix : character :: rest <:+ whole) :
    element (ofCharacters whole) (offsetOf whole (character :: rest)) =
      report whole ((takeElement (character :: rest)).map fun (element, after) =>
        (element, offsetOf whole after)) := by
  obtain ⟨lead, _, encodes⟩ := exists_encodes character
  rw [element, peek_cons encodes suffix, Option.some_beq_some, encodes.ascii '"' (by decide)]
  by_cases quote : character = '"'
  case pos =>
    subst quote
    rw [beq_self_eq_true, if_pos rfl, quoted_offsetOf suffix, takeElement]
    cases takeQuoted rest with
    | none => rfl
    | some pair => rfl
  case neg =>
    rw [beq_false_of_ne quote, if_neg Bool.false_ne_true, unquoted_offsetOf suffix,
      takeElement_of_ne quote]
    cases takeUnquoted (character :: rest) with
    | error stop => rfl
    | ok pair =>
        obtain ⟨written, after⟩ := pair
        dsimp only [Except.bind]
        split <;> rfl

end

end BankLedger.Sql.ArrayLiteral.Octetwise
