import BankLedger.Text.Blank
import BankLedger.Text.Octets

/-!
# Array literals

A database writes an array as a literal such as `{1,2,3}` or `{"a,b",NULL}`.  Splitting
a literal gives its elements from left to right, with quotes and escapes removed; nested arrays are
flattened, and a dimension decoration `[0:2]=` in front is skipped.

A scan works on the characters that are left.  It fails at such a remainder, and only the report of
the failure turns the remainder into an offset, counted in octets from the start of the text after
the decoration.
-/

namespace BankLedger.Sql.ArrayLiteral

open BankLedger.Text

/-- An element of an array literal, with quotes and escapes removed. -/
inductive Element
  | null
  | text (text : String)
deriving DecidableEq

/-- Why a text is not an array literal. -/
inductive Failure
  | missingOpeningBrace
  | malformedDimensions
  | unexpectedEnd
  | unexpectedCharacter (character : Char) (offset : Nat)
  | unterminatedQuote (offset : Nat)
  | trailingCharacters
deriving DecidableEq

/-- The wording of a failure. -/
def Failure.message : Failure → String
  | .missingOpeningBrace => "array literal must start with '\x7b'"
  | .malformedDimensions => "malformed dimension decoration"
  | .unexpectedEnd => "array literal ended unexpectedly"
  | .unexpectedCharacter character offset =>
      s!"unexpected character '{character}' at offset {offset}"
  | .unterminatedQuote offset => s!"unterminated quoted element starting at offset {offset}"
  | .trailingCharacters => "trailing characters after the closing brace"

/-! ## Elements -/

/-- Where a scan stops: at a remainder that cannot go on, or inside the quoted element that opens at
a remainder. -/
inductive Stop
  | unexpected (rest : List Char)
  | unterminated (opening : List Char)

/-- The text without its leading ASCII blanks. -/
def skipBlanks (text : List Char) : List Char :=
  text.dropWhile isAsciiBlank

theorem length_skipBlanks (text : List Char) : (skipBlanks text).length ≤ text.length :=
  (List.dropWhile_sublist _).length_le

/-- Consumes the delimiter after an item, or leaves a closing brace. -/
def skipDelimiter (text : List Char) : Except Stop (List Char) :=
  match skipBlanks text with
  | ',' :: rest => .ok rest
  | '\x7d' :: rest => .ok ('\x7d' :: rest)
  | rest => .error (.unexpected rest)

theorem length_skipDelimiter {text rest : List Char} (skipped : skipDelimiter text = .ok rest) :
    rest.length ≤ text.length := by
  have bound := length_skipBlanks text
  unfold skipDelimiter at skipped
  split at skipped
  · rename_i after same
    cases skipped
    rw [same] at bound
    exact Nat.le_of_succ_le bound
  · rename_i after same
    cases skipped
    rwa [same] at bound
  · cases skipped

/-- The text without the backslashes that protect a character; a last lone one is dropped. -/
def unescape : List Char → List Char
  | [] => []
  | '\\' :: [] => []
  | '\\' :: character :: rest => character :: unescape rest
  | character :: rest => character :: unescape rest

/-- Reads up to the closing quote: the text as written, and what follows the quote. -/
def takeQuoted : List Char → Option (List Char × List Char)
  | [] => none
  | '"' :: rest => some ([], rest)
  | '\\' :: [] => none
  | '\\' :: character :: rest =>
      (takeQuoted rest).map fun (raw, after) => ('\\' :: character :: raw, after)
  | character :: rest => (takeQuoted rest).map fun (raw, after) => (character :: raw, after)

theorem length_takeQuoted {text raw rest : List Char} (taken : takeQuoted text = some (raw, rest)) :
    rest.length ≤ text.length := by
  fun_induction takeQuoted text generalizing raw rest with
  | case1 => simp at taken
  | case2 => simp_all
  | case3 => simp at taken
  | case4 character after ih =>
      simp only [Option.map_eq_some_iff, Prod.mk.injEq, Prod.exists] at taken
      obtain ⟨_, _, found, _, rfl⟩ := taken
      have := ih found
      simp only [List.length_cons]; omega
  | case5 character after _ _ _ ih =>
      simp only [Option.map_eq_some_iff, Prod.mk.injEq, Prod.exists] at taken
      obtain ⟨_, _, found, _, rfl⟩ := taken
      have := ih found
      simp only [List.length_cons]; omega

/-- Reads up to a delimiter or a closing brace that no backslash protects: the text as written, and
what is left.  An opening brace or a quote may not stand inside. -/
def takeUnquoted : List Char → Except Stop (List Char × List Char)
  | [] => .ok ([], [])
  | ',' :: rest => .ok ([], ',' :: rest)
  | '\x7d' :: rest => .ok ([], '\x7d' :: rest)
  | '\x7b' :: rest => .error (.unexpected ('\x7b' :: rest))
  | '"' :: rest => .error (.unexpected ('"' :: rest))
  | '\\' :: [] => .error (.unexpected [])
  | '\\' :: character :: rest =>
      (takeUnquoted rest).map fun (raw, after) => ('\\' :: character :: raw, after)
  | character :: rest => (takeUnquoted rest).map fun (raw, after) => (character :: raw, after)

/-- Whether a text spells `NULL` in any letter case. -/
def spellsNull (text : List Char) : Bool :=
  text.map Char.toUpper == ['N', 'U', 'L', 'L']

/-- The element that an unquoted text stands for: null if it spells `NULL` without an escape. -/
def unquotedElement (raw : List Char) : Element :=
  if !raw.contains '\\' && spellsNull raw then .null else .text (String.ofList (unescape raw))

/-- Reads an element that does not start with a brace. -/
def takeElement : List Char → Except Stop (Element × List Char)
  | '"' :: rest =>
      match takeQuoted rest with
      | some (raw, after) => .ok (.text (String.ofList (unescape raw)), after)
      | none => .error (.unterminated ('"' :: rest))
  | text =>
      match takeUnquoted text with
      | .error stop => .error stop
      | .ok (raw, after) =>
          if (trim raw).isEmpty then .error (.unexpected after)
          else .ok (unquotedElement (trim raw), after)

theorem append_takeUnquoted {text raw rest : List Char}
    (taken : takeUnquoted text = .ok (raw, rest)) : raw ++ rest = text := by
  fun_induction takeUnquoted text generalizing raw rest with
  | case1 => cases taken; rfl
  | case2 => cases taken; rfl
  | case3 => cases taken; rfl
  | case4 => cases taken
  | case5 => cases taken
  | case6 => cases taken
  | case7 character after ih =>
      cases found : takeUnquoted after with
      | error stop => simp [found, Except.map] at taken
      | ok pair =>
          simp only [found, Except.map, Except.ok.injEq, Prod.mk.injEq] at taken
          obtain ⟨rfl, rfl⟩ := taken
          have := @ih pair.1 pair.2 (by rw [found])
          simp [this]
  | case8 character after _ _ _ _ _ _ ih =>
      cases found : takeUnquoted after with
      | error stop => simp [found, Except.map] at taken
      | ok pair =>
          simp only [found, Except.map, Except.ok.injEq, Prod.mk.injEq] at taken
          obtain ⟨rfl, rfl⟩ := taken
          have := @ih pair.1 pair.2 (by rw [found])
          simp [this]

/-- An element has at least one character. -/
theorem length_takeElement {text rest : List Char} {element : Element}
    (taken : takeElement text = .ok (element, rest)) : rest.length < text.length := by
  unfold takeElement at taken
  split at taken
  · split at taken
    · rename_i raw after found
      cases taken
      have := length_takeQuoted found
      simp only [List.length_cons]; omega
    · cases taken
  · split at taken
    · cases taken
    · rename_i raw after found
      split at taken
      · cases taken
      · rename_i notBlank
        cases taken
        have whole := append_takeUnquoted found
        have nonempty : raw ≠ [] := by
          rintro rfl
          exact notBlank rfl
        have positive := List.length_pos_iff.mpr nonempty
        rw [← whole, List.length_append]
        omega

/-! ## Splitting -/

/-- Reads items up to the brace that closes the outermost array, `depth` arrays deep inside it: the
elements, and what follows that brace. -/
def takeItems (depth : Nat) (text : List Char) : Except Stop (List Element × List Char) :=
  have _shorter := length_skipBlanks text
  match opened : skipBlanks text with
  | [] => .error (.unexpected [])
  | '\x7b' :: rest => takeItems (depth + 1) rest
  | '\x7d' :: rest =>
      match depth with
      | 0 => .ok ([], rest)
      | outer + 1 =>
          match _delimited : skipDelimiter rest with
          | .error stop => .error stop
          | .ok after => takeItems outer after
  | character :: rest =>
      match _taken : takeElement (character :: rest) with
      | .error stop => .error stop
      | .ok (element, after) =>
          match _delimited : skipDelimiter after with
          | .error stop => .error stop
          | .ok next =>
              match takeItems depth next with
              | .error stop => .error stop
              | .ok (elements, last) => .ok (element :: elements, last)
termination_by text.length
decreasing_by
  · rw [opened] at _shorter
    simp only [List.length_cons] at _shorter
    omega
  · rw [opened] at _shorter
    have := length_skipDelimiter _delimited
    simp only [List.length_cons] at _shorter
    omega
  · rw [opened] at _shorter
    have := length_skipDelimiter _delimited
    have := length_takeElement _taken
    omega

/-- The text after leading blanks and a dimension decoration, none if a decoration does not end. -/
def dropDimensions? (literal : List Char) : Option (List Char) :=
  match trimStart literal with
  | '[' :: rest =>
      if rest.contains '=' then some ((rest.dropWhile (· != '=')).drop 1) else none
  | text => some text

/-- Reports where a scan of the whole text stopped. -/
def Stop.failure (whole : List Char) : Stop → Failure
  | .unexpected [] => .unexpectedEnd
  | .unexpected (character :: rest) =>
      .unexpectedCharacter character (octetCount whole - octetCount (character :: rest))
  | .unterminated opening => .unterminatedQuote (octetCount whole - octetCount opening)

/-- The elements of a literal without decoration. -/
def splitBody (body : List Char) : Except Failure (List Element) :=
  match skipBlanks body with
  | '\x7b' :: rest =>
      match takeItems 0 rest with
      | .error stop => .error (stop.failure body)
      | .ok (elements, after) =>
          if (skipBlanks after).isEmpty then .ok elements else .error .trailingCharacters
  | _ => .error .missingOpeningBrace

/-- The elements of a literal from left to right. -/
def split (literal : String) : Except Failure (List Element) :=
  match dropDimensions? literal.toList with
  | none => .error .malformedDimensions
  | some body => splitBody body

/-! ## Counting -/

/-- The delimiters outside quotes, and whether anything but delimiters, braces and blanks is there.
A backslash protects the character after it wherever it stands. -/
def tally (quoted : Bool) : List Char → Nat × Bool
  | [] => (0, false)
  | '\\' :: [] => (0, true)
  | '\\' :: _ :: rest => ((tally quoted rest).1, true)
  | '"' :: rest => ((tally (!quoted) rest).1, true)
  | character :: rest =>
      let (delimiters, content) := tally quoted rest
      if quoted then (delimiters, true)
      else if character == ',' then (delimiters + 1, content)
      else if character == '\x7b' || character == '\x7d' || isAsciiBlank character then
        (delimiters, content)
      else (delimiters, true)

/-- An upper bound for the number of elements, found without splitting. -/
def count (literal : String) : Nat :=
  let (delimiters, content) := tally false ((dropDimensions? literal.toList).getD literal.toList)
  if content then delimiters + 1 else 0

end BankLedger.Sql.ArrayLiteral
