import BankLedger.Proofs.Sql.ArrayOctets

/-!
# Where splitting fails

A failure names an offset.  An unexpected character stands at that offset.  An unterminated quote
stands there too, and it opens an element: what is in front of it is the beginning of a literal that
is due to go on with an item.  Such a beginning is said in the words of the grammar, with one array
for each that is still open, so the depth of the scan is the number of these.
-/

namespace BankLedger.Sql.ArrayLiteral

open BankLedger.Text

/-! ## Beginnings of literals -/

/-- What may stand in an array in front of an item: nothing, or items and a comma. -/
inductive Begun : List Char → Prop
  | nothing : Begun []
  | items {dangling : Nat} {text : List Char} {trees : List Tree} :
      Items Readable dangling text trees → Begun (text ++ [','])

/-- What may stand in front of an item that is inside of one array and of some more around it: an
opening brace for each array, and behind it what the array has begun with. -/
inductive Due : Nat → List Char → Prop
  | outermost {blanks inside : List Char} : Blanks blanks → Begun inside →
      Due 0 (blanks ++ '\x7b' :: inside)
  | within {depth : Nat} {front blanks inside : List Char} : Due depth front → Blanks blanks →
      Begun inside → Due (depth + 1) (front ++ (blanks ++ '\x7b' :: inside))

section

variable {depth dangling : Nat} {front part blanks text after next rest : List Char}
  {trees : List Tree}

theorem Begun.append (begun : Begun part) (items : Items Readable dangling text trees) :
    ∃ total more, Items Readable total (part ++ text) more := by
  cases begun with
  | nothing => exact ⟨_, _, items⟩
  | items first =>
      rw [List.append_assoc]
      exact ⟨_, _, first.append items⟩

/-- An array may end where an item is due in it. -/
theorem Begun.inside (begun : Begun part) (blank : Blanks blanks) :
    ∃ total members, Inside total (part ++ blanks) members := by
  cases begun with
  | nothing => exact ⟨_, _, .empty blank⟩
  | items first =>
      rw [List.append_assoc]
      exact ⟨_, _, .dangling blank first⟩

/-- Behind items and a comma the next item is due. -/
theorem Due.comma (due : Due depth front) (items : Items Readable dangling text trees) :
    Due depth (front ++ (text ++ [','])) := by
  cases due with
  | outermost blank begun =>
      obtain ⟨_, _, more⟩ := begun.append items
      have next := Due.outermost blank (.items more)
      simpa using next
  | within outer blank begun =>
      obtain ⟨_, _, more⟩ := begun.append items
      have next := outer.within blank (.items more)
      simpa using next

/-- Where the scan stands between what it has read and what is left: an item is due, or items have
been read and the innermost array is closed next. -/
inductive Stands (depth : Nat) : List Char → List Char → Prop
  | due {front text : List Char} : Due depth front → Stands depth front text
  | full {dangling : Nat} {front items rest : List Char} {trees : List Tree} : Due depth front →
      Items Readable dangling items trees → Stands depth (front ++ items) ('\x7d' :: rest)

/-- Behind items the scan goes on with the next item or the end of the array. -/
theorem Due.exists_stands (due : Due depth front) (items : Items Readable dangling text trees)
    (delimited : skipDelimiter after = .ok next) :
    ∃ moved, front ++ (text ++ after) = moved ++ next ∧ Stands depth moved next := by
  obtain ⟨blanks, blank, rfl | ⟨rest, rfl, rfl⟩⟩ := exists_of_skipDelimiter delimited
  case inl =>
    refine ⟨front ++ (text ++ blanks ++ [',']), by simp, ?_⟩
    exact .due (due.comma (items.append_blanks blank))
  case inr =>
    refine ⟨front ++ (text ++ blanks), by simp, ?_⟩
    exact .full due (items.append_blanks blank)

/-- An item is not due where the array is closed next. -/
theorem Stands.item (stands : Stands depth front text) {character : Char}
    (started : skipBlanks text = character :: rest) (notClose : character ≠ '\x7d') :
    Due depth front := by
  cases stands with
  | due due => exact due
  | full =>
      rw [skipBlanks_cons (by decide)] at started
      exact absurd (List.cons.inj started).1.symm notClose

/-- With its closing brace an inner array is an item of the array around it. -/
theorem Stands.exists_closed (stands : Stands (depth + 1) front text)
    (closed : skipBlanks text = '\x7d' :: rest) :
    ∃ outer dangling items trees, Due depth outer ∧ Items Readable dangling items trees ∧
      front ++ text = outer ++ (items ++ rest) := by
  cases stands with
  | due due =>
      obtain ⟨before, blankBefore, whole⟩ := exists_blanks text
      cases due with
      | within outer blank begun =>
          obtain ⟨_, _, inside⟩ := begun.inside blankBefore
          refine ⟨_, _, _, _, outer, inside.array blank Blanks.nil, ?_⟩
          rw [whole, closed]
          simp
  | full due items =>
      rw [skipBlanks_cons (by decide)] at closed
      cases due with
      | within outer blank begun =>
          obtain ⟨_, _, more⟩ := begun.append items
          refine ⟨_, _, _, _, outer, (Inside.items more).array blank Blanks.nil, ?_⟩
          rw [closed]
          simp

end

/-! ## Stops -/

/-- What is known of the remainder of a text at which a scan stops: it is one, and an unterminated
quote is the first character of an item that is due. -/
inductive Located (whole : List Char) : Stop → Prop
  | unexpected {rest : List Char} : rest <:+ whole → Located whole (.unexpected rest)
  | unterminated {depth : Nat} {front blanks after : List Char} : Due depth front →
      Blanks blanks → takeQuoted after = none → whole = front ++ (blanks ++ '"' :: after) →
      Located whole (.unterminated ('"' :: after))

section

variable {depth : Nat} {front text rest : List Char} {stop : Stop}

theorem map_eq_error_iff {α β : Type} {image : α → β} {outcome : Except Stop α} :
    outcome.map image = .error stop ↔ outcome = .error stop := by
  cases outcome <;> simp [Except.map]

theorem exists_of_skipDelimiter_error (stopped : skipDelimiter text = .error stop) :
    ∃ rest, rest <:+ text ∧ stop = .unexpected rest := by
  refine ⟨skipBlanks text, skipBlanks_suffix text, ?_⟩
  unfold skipDelimiter at stopped
  split at stopped
  case h_1 => cases stopped
  case h_2 => cases stopped
  case h_3 => cases stopped; rfl

theorem exists_of_takeUnquoted_error (stopped : takeUnquoted text = .error stop) :
    ∃ rest, rest <:+ text ∧ stop = .unexpected rest := by
  fun_induction takeUnquoted text with
  | case1 | case2 | case3 => cases stopped
  | case4 | case5 =>
      cases stopped
      exact ⟨_, List.suffix_refl _, rfl⟩
  | case6 =>
      cases stopped
      exact ⟨[], List.nil_suffix, rfl⟩
  | case7 character rest inductionHypothesis =>
      rw [map_eq_error_iff] at stopped
      obtain ⟨last, suffix, same⟩ := inductionHypothesis stopped
      refine ⟨last, suffix.trans ?_, same⟩
      exact (List.suffix_cons character rest).trans (List.suffix_cons _ _)
  | case8 character rest _ _ _ _ _ _ inductionHypothesis =>
      rw [map_eq_error_iff] at stopped
      obtain ⟨last, suffix, same⟩ := inductionHypothesis stopped
      exact ⟨last, suffix.trans (List.suffix_cons character rest), same⟩

/-- An element stops at a remainder of the text or at its opening quote. -/
theorem stop_of_takeElement {character : Char}
    (stopped : takeElement (character :: rest) = .error stop) :
    (∃ last, last <:+ character :: rest ∧ stop = .unexpected last) ∨
      character = '"' ∧ takeQuoted rest = none ∧ stop = .unterminated ('"' :: rest) := by
  by_cases quote : character = '"'
  case pos =>
    subst quote
    simp only [takeElement] at stopped
    cases taken : takeQuoted rest with
    | none =>
        rw [taken] at stopped
        cases stopped
        exact .inr ⟨rfl, rfl, rfl⟩
    | some pair =>
        rw [taken] at stopped
        cases stopped
  case neg =>
    rw [takeElement_of_ne quote] at stopped
    left
    cases taken : takeUnquoted (character :: rest) with
    | error _ =>
        rw [taken] at stopped
        cases stopped
        exact exists_of_takeUnquoted_error taken
    | ok pair =>
        obtain ⟨written, after⟩ := pair
        rw [taken] at stopped
        dsimp only at stopped
        split at stopped
        case isTrue =>
          cases stopped
          refine ⟨after, ?_, rfl⟩
          rw [← append_takeUnquoted taken]
          exact List.suffix_append _ _
        case isFalse => cases stopped

theorem Located.of_suffix (suffix : rest <:+ text) : Located (front ++ text) (.unexpected rest) :=
  .unexpected (suffix.trans (List.suffix_append front text))

/-- Behind items a scan stops for want of a delimiter, or where it stops from the next item on. -/
theorem Due.located {dangling : Nat} {items after : List Char} {trees : List Tree}
    (due : Due depth front) (written : Items Readable dangling items trees)
    (stopped : (skipDelimiter after).bind (takeItems depth) = .error stop)
    (later : ∀ moved next, next.length ≤ after.length → Stands depth moved next →
      takeItems depth next = .error stop → Located (moved ++ next) stop) :
    Located (front ++ (items ++ after)) stop := by
  cases delimited : skipDelimiter after with
  | error _ =>
      rw [delimited] at stopped
      cases stopped
      obtain ⟨last, suffix, rfl⟩ := exists_of_skipDelimiter_error delimited
      exact .of_suffix (suffix.trans (List.suffix_append items after))
  | ok next =>
      rw [delimited] at stopped
      obtain ⟨moved, same, stands⟩ := due.exists_stands written delimited
      rw [same]
      exact later moved next (length_skipDelimiter delimited) stands stopped

/-- A scan that does not get past an item stops in the element, or behind it. -/
theorem exists_of_takeItems_element_error {character : Char}
    (started : skipBlanks text = character :: rest) (notOpen : character ≠ '\x7b')
    (notClose : character ≠ '\x7d') (stopped : takeItems depth text = .error stop) :
    takeElement (character :: rest) = .error stop ∨
      ∃ element after, takeElement (character :: rest) = .ok (element, after) ∧
        (skipDelimiter after).bind (takeItems depth) = .error stop := by
  rw [takeItems_element started notOpen notClose] at stopped
  cases taken : takeElement (character :: rest) with
  | error _ =>
      rw [taken] at stopped
      cases stopped
      exact .inl rfl
  | ok pair =>
      obtain ⟨element, after⟩ := pair
      rw [taken] at stopped
      refine .inr ⟨element, after, rfl, ?_⟩
      dsimp only [Except.bind] at stopped
      cases delimited : skipDelimiter after with
      | error _ =>
          rw [delimited] at stopped
          exact stopped
      | ok next =>
          rw [delimited] at stopped
          exact map_eq_error_iff.mp stopped

/-- A scan that goes on from where it stands with the rest of a text stops as it should. -/
theorem Stands.located (stands : Stands depth front text)
    (stopped : takeItems depth text = .error stop) : Located (front ++ text) stop := by
  -- An array that opens is due within the one before it and no part of it is closed yet: what is
  -- behind the brace stands deeper, and only its length goes down.
  induction size : text.length using Nat.strongRecOn generalizing depth front text with
  | ind size inductionHypothesis =>
      subst size
      obtain ⟨before, blank, whole⟩ := exists_blanks text
      cases started : skipBlanks text with
      | nil =>
          rw [takeItems_nil started] at stopped
          cases stopped
          exact .unexpected List.nil_suffix
      | cons character rest =>
          rw [started] at whole
          have shorter : rest.length < text.length := by
            rw [whole, List.length_append, List.length_cons]
            omega
          by_cases opens : character = '\x7b'
          case pos =>
            subst opens
            rw [takeItems_open started] at stopped
            have inner := (stands.item started (by decide)).within blank .nothing
            have located := inductionHypothesis _ shorter (.due inner) stopped rfl
            rw [whole]
            simpa using located
          case neg =>
            by_cases closes : character = '\x7d'
            case pos =>
              subst closes
              cases depth with
              | zero =>
                  rw [takeItems_close_zero started] at stopped
                  cases stopped
              | succ outer =>
                  rw [takeItems_close_succ started] at stopped
                  obtain ⟨_, _, _, _, due, array, same⟩ := stands.exists_closed started
                  rw [same]
                  apply due.located array stopped
                  intro moved next atMost standsNext stoppedNext
                  exact inductionHypothesis _ (by omega) standsNext stoppedNext rfl
            case neg =>
              have due := stands.item started closes
              rcases exists_of_takeItems_element_error started opens closes stopped with
                inElement | ⟨element, after, taken, behind⟩
              case inl =>
                rw [whole]
                rcases stop_of_takeElement inElement with ⟨last, suffix, rfl⟩ | ⟨rfl, unclosed, rfl⟩
                · exact .of_suffix (suffix.trans (List.suffix_append before _))
                · exact .unterminated due blank unclosed rfl
              case inr =>
                obtain ⟨written, readable, same⟩ := takeElement_readable taken
                have less := length_takeElement taken
                rw [List.length_cons] at less
                have divided : text = before ++ written ++ [] ++ after := by
                  rw [whole, same, List.append_nil, List.append_assoc]
                rw [divided]
                apply due.located (.element blank Blanks.nil readable) behind
                intro moved next atMost standsNext stoppedNext
                exact inductionHypothesis _ (by omega) standsNext stoppedNext rfl

end

/-- A failure to split a text without decoration comes from a stop, unless the array is missing or
something follows it. -/
theorem exists_of_splitBody_error {body : List Char} {failure : Failure}
    (failed : splitBody body = .error failure) :
    failure ∈ [.missingOpeningBrace, .trailingCharacters] ∨
      ∃ stop, Located body stop ∧ failure = stop.failure body := by
  obtain ⟨before, blank, whole⟩ := exists_blanks body
  unfold splitBody at failed
  split at failed
  case h_1 rest started =>
    cases taken : takeItems 0 rest with
    | error stop =>
        rw [taken] at failed
        cases failed
        have located := (Stands.due (.outermost blank .nothing)).located taken
        rw [List.append_assoc, List.cons_append, List.nil_append, ← started, ← whole] at located
        exact .inr ⟨stop, located, rfl⟩
    | ok outcome =>
        rw [taken] at failed
        dsimp only at failed
        split at failed
        case isTrue => cases failed
        case isFalse =>
          cases failed
          exact .inl (by simp)
  case h_2 =>
    cases failed
    exact .inl (by simp)

/-- A failure to split a literal comes from a stop in the text behind the decoration, if it names an
offset. -/
theorem exists_of_split_error {literal : String} {failure : Failure}
    (failed : split literal = .error failure) :
    failure ∈ [.malformedDimensions, .missingOpeningBrace, .trailingCharacters] ∨
      ∃ body stop, dropDimensions? literal.toList = some body ∧ Located body stop ∧
        failure = stop.failure body := by
  rw [split] at failed
  cases dropped : dropDimensions? literal.toList with
  | none =>
      rw [dropped] at failed
      cases failed
      exact .inl (by simp)
  | some body =>
      rw [dropped] at failed
      rcases exists_of_splitBody_error failed with outside | ⟨stop, located, same⟩
      · exact .inl (List.mem_cons_of_mem _ outside)
      · exact .inr ⟨body, stop, rfl, located, same⟩

/-! ## Offsets -/

theorem exists_of_unexpectedCharacter {literal : String} {character : Char} {offset : Nat}
    (failed : split literal = .error (.unexpectedCharacter character offset)) :
    ∃ before after, dropDimensions? literal.toList = some (before ++ character :: after) ∧
      octetCount before = offset := by
  rcases exists_of_split_error failed with outside | ⟨body, stop, dropped, located, same⟩
  case inl => simp at outside
  case inr =>
    cases located with
    | @unexpected rest suffix =>
        obtain ⟨before, rfl⟩ := suffix
        cases rest with
        | nil => cases same
        | cons first after =>
            cases same
            exact ⟨before, after, dropped, (Octetwise.offsetOf_append before _).symm⟩
    | unterminated => cases same

theorem exists_of_unterminatedQuote {literal : String} {offset : Nat}
    (failed : split literal = .error (.unterminatedQuote offset)) :
    ∃ depth front blanks after,
      dropDimensions? literal.toList = some (front ++ blanks ++ '"' :: after) ∧
        Due depth front ∧ Blanks blanks ∧ takeQuoted after = none ∧
        octetCount (front ++ blanks) = offset := by
  rcases exists_of_split_error failed with outside | ⟨body, stop, dropped, located, same⟩
  case inl => simp at outside
  case inr =>
    cases located with
    | @unexpected rest _ => cases rest <;> cases same
    | @unterminated depth front blanks after due blank unclosed whole =>
        cases same
        rw [← List.append_assoc] at whole
        subst whole
        exact ⟨depth, front, blanks, after, dropped, due, blank, unclosed,
          (Octetwise.offsetOf_append (front ++ blanks) _).symm⟩

namespace Octetwise

/-- The outcome is that of splitting, with a buffer of some size. -/
theorem exists_splitBuffered_eq (literal : String) :
    ∃ capacity, splitBuffered literal =
      conclude ((ArrayLiteral.split literal).map fun elements => (capacity, elements)) := by
  rw [splitBuffered_eq, ArrayLiteral.split]
  cases dropDimensions? literal.toList with
  | none => exact ⟨0, rfl⟩
  | some body => exact ⟨ArrayLiteral.count (String.ofList body), rfl⟩

theorem split_of_refused {literal : String} {failure : Failure}
    (refused : splitBuffered literal = conclude (.error failure)) :
    ArrayLiteral.split literal = .error failure := by
  obtain ⟨capacity, outcome⟩ := exists_splitBuffered_eq literal
  have same := Part.some_inj.mp (outcome.symm.trans refused)
  cases divided : ArrayLiteral.split literal with
  | ok elements =>
      rw [divided] at same
      cases same
  | error other =>
      rw [divided] at same
      cases same
      rfl

/-- The scan of the octets of a text ends, with what splitting the text gives.  So every cut is made
where a character starts, or the text ends, and the number of open arrays is never below zero: each
would be an outcome of its own.  An unexpected character that it names is found at the offset that
it names, in the text behind the decoration.  An unterminated quote is found there as well: an item
is due in front of it, but for blanks, and no quote behind it closes the element. -/
theorem scan_is_safe_and_names_true_offsets (literal : String) :
    (∃ capacity, splitBuffered literal =
      conclude ((ArrayLiteral.split literal).map fun elements => (capacity, elements))) ∧
    (∀ character offset,
      splitBuffered literal = conclude (.error (.unexpectedCharacter character offset)) →
      ∃ before after,
        dropDimensions literal = pure (String.ofList (before ++ character :: after)) ∧
        (Octets.ofText (String.ofList before)).length = offset) ∧
    ∀ offset, splitBuffered literal = conclude (.error (.unterminatedQuote offset)) →
      ∃ depth front blanks after,
        dropDimensions literal = pure (String.ofList (front ++ blanks ++ '"' :: after)) ∧
        (Octets.ofText (String.ofList (front ++ blanks))).length = offset ∧
        Due depth front ∧ Blanks blanks ∧
        ∀ written text rest, Spells PlainInQuotes written text →
          after ≠ written ++ '"' :: rest := by
  refine ⟨exists_splitBuffered_eq literal, ?_, ?_⟩
  · intro character offset refused
    obtain ⟨before, after, dropped, position⟩ :=
      exists_of_unexpectedCharacter (split_of_refused refused)
    refine ⟨before, after, ?_, ?_⟩
    · rw [dropDimensions_eq, dropped]
    · rw [Octets.ofText_ofList, Octets.length_ofCharacters, position]
  · intro offset refused
    obtain ⟨depth, front, blanks, after, dropped, due, blank, unclosed, position⟩ :=
      exists_of_unterminatedQuote (split_of_refused refused)
    refine ⟨depth, front, blanks, after, ?_, ?_, due, blank, ?_⟩
    · rw [dropDimensions_eq, dropped]
    · rw [Octets.ofText_ofList, Octets.length_ofCharacters, position]
    · rintro written text rest spells rfl
      rw [spells.takeQuoted_append] at unclosed
      contradiction

/-- Wide characters in a decoration, behind backslashes, and as blanks around an element. -/
theorem scan_is_safe_and_names_true_offsets_among_wide_characters :
    (∃ before after,
      dropDimensions "\u3000[é]=\x7b\"\\é\", \\\u3000é\x7b" =
          pure (String.ofList (before ++ '\x7b' :: after)) ∧
        (Octets.ofText (String.ofList before)).length = 14) ∧
    ∃ depth front blanks after,
      dropDimensions "[é]= \x7b\\é\u3000,\x7b\"\"\x7d,\t\"\\é\x7d" =
          pure (String.ofList (front ++ blanks ++ '"' :: after)) ∧
        (Octets.ofText (String.ofList (front ++ blanks))).length = 15 ∧
        Due depth front ∧ Blanks blanks ∧
        ∀ written text rest, Spells PlainInQuotes written text →
          after ≠ written ++ '"' :: rest := by
  have unexpected : ArrayLiteral.split "\u3000[é]=\x7b\"\\é\", \\\u3000é\x7b" =
      .error (.unexpectedCharacter '\x7b' 14) := by decide +kernel
  have unterminated : ArrayLiteral.split "[é]= \x7b\\é\u3000,\x7b\"\"\x7d,\t\"\\é\x7d" =
      .error (.unterminatedQuote 15) := by decide +kernel
  constructor
  · apply (scan_is_safe_and_names_true_offsets _).2.1
    obtain ⟨_, outcome⟩ := exists_splitBuffered_eq "\u3000[é]=\x7b\"\\é\", \\\u3000é\x7b"
    rw [outcome, unexpected]
    rfl
  · apply (scan_is_safe_and_names_true_offsets _).2.2
    obtain ⟨_, outcome⟩ := exists_splitBuffered_eq "[é]= \x7b\\é\u3000,\x7b\"\"\x7d,\t\"\\é\x7d"
    rw [outcome, unterminated]
    rfl

end Octetwise

end BankLedger.Sql.ArrayLiteral
