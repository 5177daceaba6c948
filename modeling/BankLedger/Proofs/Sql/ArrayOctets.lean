import BankLedger.Proofs.Sql.ArrayCount
import BankLedger.Proofs.Sql.OctetElements

/-!
# Splitting octets

The scan over octets does what the scan over characters does: it drops the same decoration, counts
as many elements, and splits the text into the same elements or refuses it for the same reason.  It
always ends, it never cuts a character, and it never closes an array that is not open.
-/

namespace BankLedger.Sql.ArrayLiteral.Octetwise

open BankLedger.Text Octets

/-! ## Splitting -/

section

variable {whole : List Char}

/-- Items are read as the scan over characters reads them, at whatever depth.  That scan counts the
arrays around the innermost one only, so the depth of this one is greater by one and not zero. -/
theorem items_offsetOf {rest : List Char} (suffix : rest <:+ whole) (depth : Nat)
    (elements : List Element) :
    items (ofCharacters whole) ⟨depth + 1, elements, offsetOf whole rest⟩ =
      report whole ((takeItems depth rest).map fun (others, last) =>
        (elements ++ others, offsetOf whole last)) := by
  -- The loop goes on behind an element and its comma, so the induction is on the length of the rest.
  induction size : rest.length using Nat.strongRecOn generalizing rest depth elements with
  | ind size inductionHypothesis =>
      subst size
      have suffixStart := (skipBlanks_suffix rest).trans suffix
      have shorter := length_skipBlanks rest
      rw [items_eq, skipBlanks_offsetOf suffix, pure_bind]
      cases started : ArrayLiteral.skipBlanks rest with
      | nil =>
          rw [peek_nil, takeItems_nil started]
          rfl
      | cons character others =>
          rw [started] at suffixStart shorter
          rw [List.length_cons] at shorter
          have suffixOthers : others <:+ whole := (List.suffix_cons _ _).trans suffixStart
          obtain ⟨lead, _, encodes⟩ := exists_encodes character
          rw [peek_cons encodes suffixStart]
          dsimp only
          rw [encodes.ascii '\x7b' (by decide), encodes.ascii '\x7d' (by decide)]
          by_cases opens : character = '\x7b'
          case pos =>
            subst opens
            rw [beq_self_eq_true, if_pos rfl, ← offsetOf_ascii (by decide) suffixStart,
              inductionHypothesis _ shorter suffixOthers _ _ rfl, takeItems_open started]
          case neg =>
            by_cases closes : character = '\x7d'
            case pos =>
              subst closes
              rw [beq_false_of_ne opens, if_neg Bool.false_ne_true, beq_self_eq_true, if_pos rfl,
                ← offsetOf_ascii (by decide) suffixStart]
              cases depth with
              | zero =>
                  rw [takeItems_close_zero started]
                  simp [Except.map, report_ok]
              | succ outer =>
                  rw [takeItems_close_succ started, if_neg (by simp),
                    skipDelimiter_offsetOf suffixOthers]
                  cases delimited : ArrayLiteral.skipDelimiter others with
                  | error stop => exact throw_bind ..
                  | ok next =>
                      have less := length_skipDelimiter delimited
                      have later := inductionHypothesis _ (by omega)
                        ((suffix_of_skipDelimiter delimited).trans suffixOthers) outer elements rfl
                      simp only [Except.map, report_ok, pure_bind, later]
                      rfl
            case neg =>
              rw [beq_false_of_ne opens, if_neg Bool.false_ne_true, beq_false_of_ne closes,
                if_neg Bool.false_ne_true, takeItems_element started opens closes,
                element_offsetOf suffixStart]
              cases taken : takeElement (character :: others) with
              | error stop => exact throw_bind ..
              | ok pair =>
                  obtain ⟨element, after⟩ := pair
                  have suffixAfter : after <:+ whole :=
                    (suffix_of_takeElement taken).trans suffixStart
                  have less := length_takeElement taken
                  rw [List.length_cons] at less
                  simp only [Except.map, report_ok, pure_bind, Except.bind,
                    skipDelimiter_offsetOf suffixAfter]
                  cases delimited : ArrayLiteral.skipDelimiter after with
                  | error stop => exact throw_bind ..
                  | ok next =>
                      have lessToo := length_skipDelimiter delimited
                      have later := inductionHypothesis _ (by omega)
                        ((suffix_of_skipDelimiter delimited).trans suffixAfter) depth
                        (elements ++ [element]) rfl
                      simp only [report_ok, pure_bind, later]
                      cases takeItems depth next with
                      | error stop => rfl
                      | ok outcome => simp [prepend, Except.map]

/-- Octets are split as their characters are. -/
theorem splitBody_ofList (body : List Char) :
    splitBody (String.ofList body) = conclude (ArrayLiteral.splitBody body) := by
  have start : offsetOf body body = 0 := Nat.sub_self _
  have suffix := skipBlanks_suffix body
  rw [splitBody, ofText_ofList, ← start, skipBlanks_offsetOf (List.suffix_refl body), pure_bind]
  cases started : ArrayLiteral.skipBlanks body with
  | nil =>
      rw [peek_nil, splitBody_of_not_open (by simp [started])]
      rfl
  | cons character rest =>
      rw [started] at suffix
      obtain ⟨lead, _, encodes⟩ := exists_encodes character
      rw [peek_cons encodes suffix, Option.some_beq_some, encodes.ascii '\x7b' (by decide)]
      by_cases opens : character = '\x7b'
      case neg =>
        rw [beq_false_of_ne opens, if_neg Bool.false_ne_true,
          splitBody_of_not_open (by simp [started, opens])]
        rfl
      case pos =>
        subst opens
        have suffixRest : rest <:+ body := (List.suffix_cons _ _).trans suffix
        rw [beq_self_eq_true, if_pos rfl, ← offsetOf_ascii (by decide) suffix,
          items_offsetOf suffixRest 0 [], splitBody_open started]
        cases taken : takeItems 0 rest with
        | error stop => exact throw_bind ..
        | ok outcome =>
            obtain ⟨elements, after⟩ := outcome
            have suffixAfter : after <:+ body := (suffix_of_takeItems taken).trans suffixRest
            have suffixLast := (skipBlanks_suffix after).trans suffixAfter
            simp only [Except.map, report_ok, pure_bind, List.nil_append,
              skipBlanks_offsetOf suffixAfter]
            cases left : ArrayLiteral.skipBlanks after with
            | nil =>
                rw [peek_nil]
                rfl
            | cons next others =>
                obtain ⟨second, _, encodesNext⟩ := exists_encodes next
                rw [left] at suffixLast
                rw [peek_cons encodesNext suffixLast]
                rfl

end

/-! ### Decorations -/

/-- A decoration is dropped as the scan over characters drops it. -/
theorem dropDimensions_eq (literal : String) :
    dropDimensions literal =
      match dropDimensions? literal.toList with
      | none => throw (.refused .malformedDimensions)
      | some body => pure (String.ofList body) := by
  rw [dropDimensions, ofText_ofList]
  cases started : trimStart literal.toList with
  | nil =>
      rw [dropDimensions?_of_not_decorated (by simp [started]), started]
      rfl
  | cons character rest =>
      obtain ⟨lead, _, encodes⟩ := exists_encodes character
      have first : (ofCharacters (character :: rest))[0]? = some lead := by
        rw [ofCharacters_cons, encodes.octets]
        rfl
      rw [first, Option.some_beq_some, encodes.ascii '[' (by decide)]
      by_cases bracket : character = '['
      case neg =>
        rw [dropDimensions?_of_not_decorated (by simp [started, bracket]), started,
          beq_false_of_ne bracket]
        rfl
      case pos =>
        subst bracket
        rw [dropDimensions?_of_decorated started, beq_self_eq_true, if_pos rfl,
          idxOf?_ofCharacters (by decide)]
        by_cases equals : '=' ∈ rest
        case neg =>
          rw [if_neg (by simpa using equals), if_neg equals]
        case pos =>
          have before : ('[' :: rest).takeWhile (· != '=') = '[' :: rest.takeWhile (· != '=') :=
            List.takeWhile_cons_of_pos (by decide)
          have whole : '[' :: rest.takeWhile (· != '=') ++
              '=' :: (rest.dropWhile (· != '=')).drop 1 = '[' :: rest := by
            rw [List.cons_append, ← dropWhile_ne_of_mem equals, List.takeWhile_append_dropWhile]
          have taken := cut_behind (by decide : '='.toNat < 0x80) ('[' :: rest.takeWhile (· != '='))
            ((rest.dropWhile (· != '=')).drop 1)
          rw [whole] at taken
          rw [if_pos (List.mem_cons_of_mem _ equals), if_pos equals, before]
          dsimp only
          rw [taken, pure_bind]

/-! ## Counting -/

theorem Encodes.others_eq_nil {character : Char} {lead : UInt8} {others : Octets}
    (encodes : Encodes character lead others) (ascii : character.toNat < 0x80) : others = [] := by
  have same := encodes.octets.symm.trans (utf8EncodeChar_of_ascii ascii)
  exact (List.cons.inj same).2

/-- Once something has been found, an octet that goes on with a character changes nothing. -/
theorem Tally.read_of_isContinuation {octet : UInt8} (continues : isContinuation octet = true)
    (delimiters : Nat) (quoted : Bool) :
    Tally.read ⟨delimiters, true, quoted, false⟩ octet = ⟨delimiters, true, quoted, false⟩ := by
  simp [Tally.read, ne_octetOf_of_isContinuation continues]

theorem Tally.foldl_read_others {others : Octets}
    (continues : ∀ octet ∈ others, isContinuation octet = true) (delimiters : Nat)
    (quoted : Bool) :
    others.foldl Tally.read ⟨delimiters, true, quoted, false⟩ =
      ⟨delimiters, true, quoted, false⟩ := by
  induction others with
  | nil => rfl
  | cons octet others inductionHypothesis =>
      rw [List.forall_mem_cons] at continues
      rw [List.foldl_cons, Tally.read_of_isContinuation continues.1,
        inductionHypothesis continues.2]

/-- A character behind a backslash is passed over with all of its octets. -/
theorem Tally.foldl_read_protected (character : Char) (delimiters : Nat) (quoted : Bool) :
    (String.utf8EncodeChar character).foldl Tally.read ⟨delimiters, true, quoted, true⟩ =
      ⟨delimiters, true, quoted, false⟩ := by
  obtain ⟨lead, others, encodes⟩ := exists_encodes character
  rw [encodes.octets, List.foldl_cons, ← Tally.foldl_read_others encodes.continues delimiters quoted]
  rfl

/-- The first octet of a character that is neither a quote nor a backslash counts for the whole
character. -/
theorem Tally.foldl_read_plain {character : Char} (quote : character ≠ '"')
    (backslash : character ≠ '\\') (delimiters : Nat) (content quoted : Bool) :
    (String.utf8EncodeChar character).foldl Tally.read ⟨delimiters, content, quoted, false⟩ =
      if quoted then ⟨delimiters, true, quoted, false⟩
      else if character == ',' then ⟨delimiters + 1, content, quoted, false⟩
      else if character == '\x7b' || character == '\x7d' || isAsciiBlank character then
        ⟨delimiters, content, quoted, false⟩
      else ⟨delimiters, true, quoted, false⟩ := by
  obtain ⟨lead, others, encodes⟩ := exists_encodes character
  have first : Tally.read ⟨delimiters, content, quoted, false⟩ lead =
      if quoted then ⟨delimiters, true, quoted, false⟩
      else if character == ',' then ⟨delimiters + 1, content, quoted, false⟩
      else if character == '\x7b' || character == '\x7d' || isAsciiBlank character then
        ⟨delimiters, content, quoted, false⟩
      else ⟨delimiters, true, quoted, false⟩ := by
    simp only [Tally.read, encodes.ascii '\\' (by decide), beq_false_of_ne backslash,
      encodes.ascii '"' (by decide), beq_false_of_ne quote, encodes.ascii ',' (by decide),
      encodes.ascii '\x7b' (by decide), encodes.ascii '\x7d' (by decide),
      encodes.isBlankOctet_eq, Bool.false_eq_true, if_false]
  rw [encodes.octets, List.foldl_cons]
  by_cases ascii : character.toNat < 0x80
  case pos => rw [encodes.others_eq_nil ascii, List.foldl_nil, first]
  case neg =>
    -- What is counted or skipped is ASCII, so every test on a wider character fails.
    have wide {other : Char} (asciiToo : other.toNat < 0x80) : (character == other) = false := by
      apply beq_false_of_ne
      rintro rfl
      exact ascii asciiToo
    simp only [isAsciiBlank, wide (by decide : ','.toNat < 0x80),
      wide (by decide : '\x7b'.toNat < 0x80), wide (by decide : '\x7d'.toNat < 0x80),
      wide (by decide : ' '.toNat < 0x80), wide (by decide : '\t'.toNat < 0x80),
      wide (by decide : '\n'.toNat < 0x80), wide (by decide : '\x0c'.toNat < 0x80),
      wide (by decide : '\r'.toNat < 0x80), Bool.or_false, Bool.false_eq_true, if_false,
      ite_self] at first ⊢
    rw [first, Tally.foldl_read_others encodes.continues]

/-- What a pass has found so far. -/
def Tally.found (tally : Tally) : Nat × Bool :=
  (tally.delimiters, tally.content)

theorem Tally.foldl_read_backslash (delimiters : Nat) (content quoted : Bool) :
    (String.utf8EncodeChar '\\').foldl Tally.read ⟨delimiters, content, quoted, false⟩ =
      ⟨delimiters, true, quoted, true⟩ := by
  rw [utf8EncodeChar_of_ascii (by decide)]
  rfl

theorem Tally.foldl_read_quote (delimiters : Nat) (content quoted : Bool) :
    (String.utf8EncodeChar '"').foldl Tally.read ⟨delimiters, content, quoted, false⟩ =
      ⟨delimiters, true, !quoted, false⟩ := by
  rw [utf8EncodeChar_of_ascii (by decide)]
  rfl

/-- A pass over octets finds what one over characters finds.  It is behind a backslash nowhere but
within the pair of characters that the backslash starts, so the induction goes by such pairs. -/
theorem Tally.found_foldl_read (quoted : Bool) (text : List Char) (delimiters : Nat)
    (content : Bool) :
    ((ofCharacters text).foldl Tally.read ⟨delimiters, content, quoted, false⟩).found =
      (delimiters + (tally quoted text).1, content || (tally quoted text).2) := by
  fun_induction unescape text generalizing delimiters content quoted with
  | case1 => simp [Tally.found, tally]
  | case2 =>
      rw [ofCharacters_cons, List.foldl_append, Tally.foldl_read_backslash]
      simp [Tally.found, tally]
  | case3 character rest inductionHypothesis =>
      rw [ofCharacters_cons, ofCharacters_cons, List.foldl_append, List.foldl_append,
        Tally.foldl_read_backslash, Tally.foldl_read_protected, inductionHypothesis]
      simp
  | case4 character rest lone protecting inductionHypothesis =>
      rw [ofCharacters_cons, List.foldl_append]
      by_cases quote : character = '"'
      case pos =>
        subst quote
        rw [Tally.foldl_read_quote, inductionHypothesis]
        simp
      case neg =>
        have backslash : character ≠ '\\' := ne_backslash lone protecting
        rw [Tally.foldl_read_plain quote backslash, tally_plain quote backslash]
        split
        case isTrue => simp [inductionHypothesis]
        case isFalse =>
          split
          case isTrue => simp [inductionHypothesis, Nat.add_assoc, Nat.add_comm 1]
          case isFalse => split <;> simp [inductionHypothesis]

theorem Tally.expected_eq (tally : Tally) :
    tally.expected = if tally.found.2 then tally.found.1 + 1 else 0 := rfl

theorem unlessRefused_conclude {α : Type} (outcome : Except Failure α) (otherwise : α) :
    unlessRefused (conclude outcome) otherwise = pure (outcome.toOption.getD otherwise) := by
  cases outcome with
  | error failure => exact Part.map_some ..
  | ok result => exact Part.map_some ..

/-- The number of elements is estimated as by the pass over characters. -/
theorem count_eq (literal : String) : count literal = pure (ArrayLiteral.count literal) := by
  have counted (body : List Char) :
      ((ofText (String.ofList body)).foldl Tally.read ⟨0, false, false, false⟩).expected =
        if (tally false body).2 then (tally false body).1 + 1 else 0 := by
    rw [ofText_ofList, Tally.expected_eq, Tally.found_foldl_read, Nat.zero_add, Bool.false_or]
  rw [count, ArrayLiteral.count, dropDimensions_eq]
  cases dropDimensions? literal.toList with
  | none =>
      have estimated := counted literal.toList
      rw [String.ofList_toList] at estimated
      dsimp only
      rw [← conclude_error, unlessRefused_conclude, pure_bind]
      exact congrArg pure estimated
  | some body =>
      dsimp only
      rw [← conclude_ok, unlessRefused_conclude, pure_bind]
      exact congrArg pure (counted body)

/-- A literal is split as its characters are, with a buffer for as many elements as are counted
behind the decoration. -/
theorem splitBuffered_eq (literal : String) :
    splitBuffered literal =
      match dropDimensions? literal.toList with
      | none => conclude (.error .malformedDimensions)
      | some body => conclude ((ArrayLiteral.splitBody body).map
          (ArrayLiteral.count (String.ofList body), ·)) := by
  rw [splitBuffered, dropDimensions_eq]
  cases dropDimensions? literal.toList with
  | none => exact throw_bind ..
  | some body =>
      simp only [pure_bind, count_eq, splitBody_ofList]
      cases ArrayLiteral.splitBody body with
      | error failure => exact throw_bind ..
      | ok elements => exact pure_bind ..

end BankLedger.Sql.ArrayLiteral.Octetwise
