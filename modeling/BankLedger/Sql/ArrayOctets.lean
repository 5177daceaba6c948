import Mathlib.Data.PFun
import BankLedger.Sql.ArrayLiteral

/-!
# Array literals octet by octet

The scan of an array literal as it goes over the octets of a text.  It stands at an offset, which it
advances by single octets, behind a backslash even into the middle of a character, and it cuts texts
out between two offsets.  Nothing in its form says that a cut never goes through a character, that
no more arrays are left than were entered, or that a loop ends: a wrong cut and a depth below zero
are outcomes of their own, and a scan that does not end has no outcome.

The number of elements is estimated in a pass of its own, with flags for quotes and escapes in the
place of offsets.
-/

namespace BankLedger.Sql.ArrayLiteral.Octetwise

open BankLedger.Text

/-- Why a scan gives no elements: the text is no literal, or the scan itself goes wrong. -/
inductive Abort
  | refused (failure : Failure)
  | wrongCut (start stop : Nat)
  | depthBelowZero
deriving DecidableEq

/-- A scan: an outcome, which is there only if the scan ends. -/
abbrev Scan := ExceptT Abort Part

/-- Whether a loop goes on after a turn: with a result it ends, with a state it does not. -/
def goesOn {σ α : Type} : Except Abort (α ⊕ σ) → Except Abort α ⊕ σ
  | .error abort => .inl (.error abort)
  | .ok (.inl result) => .inl (.ok result)
  | .ok (.inr state) => .inr state

/-- What a turn from a state comes to, if it ends. -/
def taken {σ α : Type} (turn : σ → Scan (α ⊕ σ)) : σ →. Except Abort α ⊕ σ :=
  fun state => (turn state).run.map goesOn

/-- Takes turns from a state on until one gives a result or fails.  If none does, the loop does not
end. -/
def loop {σ α : Type} (turn : σ → Scan (α ⊕ σ)) (state : σ) : Scan α :=
  ExceptT.mk (PFun.fix (taken turn) state)

/-- The octet of an ASCII character. -/
def octetOf (character : Char) : UInt8 :=
  UInt8.ofNat character.toNat

/-- Whether an octet encodes an ASCII blank. -/
def isBlankOctet (octet : UInt8) : Bool :=
  octet == octetOf ' ' || octet == octetOf '\t' || octet == octetOf '\n' ||
    octet == octetOf '\x0c' || octet == octetOf '\r'

/-! ## Cutting -/

/-- Whether an octet is one of the later ones of a character. -/
def isContinuation (octet : UInt8) : Bool :=
  0x80 ≤ octet.toNat && octet.toNat < 0xC0

/-- Whether a character starts at an offset, or the text ends there. -/
def isBoundary (text : Octets) (offset : Nat) : Bool :=
  match text[offset]? with
  | some octet => !isContinuation octet
  | none => offset == text.length

/-- The text between two offsets, if a character starts at each of them or the text ends there. -/
def cut (text : Octets) (start stop : Nat) : Scan (List Char) :=
  if start ≤ stop && isBoundary text start && isBoundary text stop then
    match Octets.toText? ((text.drop start).take (stop - start)) with
    | some part => pure part.toList
    | none => throw (.wrongCut start stop)
  else throw (.wrongCut start stop)

/-- Reports the character at an offset, or the end of the text. -/
def unexpected {α : Type} (text : Octets) (offset : Nat) : Scan α := do
  match ← cut text offset text.length with
  | [] => throw (.refused .unexpectedEnd)
  | character :: _ => throw (.refused (.unexpectedCharacter character offset))

/-! ## Elements -/

/-- The offset of the first octet that is no ASCII blank. -/
def skipBlanks (text : Octets) : Nat → Scan Nat :=
  loop fun offset =>
    match text[offset]? with
    | none => pure (.inl offset)
    | some octet => pure (if isBlankOctet octet then .inr (offset + 1) else .inl offset)

/-- Consumes the delimiter after an item, or leaves a closing brace. -/
def skipDelimiter (text : Octets) (offset : Nat) : Scan Nat := do
  let offset ← skipBlanks text offset
  match text[offset]? with
  | none => unexpected text offset
  | some octet =>
      if octet == octetOf ',' then pure (offset + 1)
      else if octet == octetOf '\x7d' then pure offset
      else unexpected text offset

/-- The offset of the quote that closes an element, and whether a backslash was seen before it.  The
octet behind a backslash is passed over. -/
def closingQuote (text : Octets) (opening : Nat) : Nat × Bool → Scan (Nat × Bool) :=
  loop fun (offset, escaped) =>
    match text[offset]? with
    | none => throw (.refused (.unterminatedQuote opening))
    | some octet =>
        if octet == octetOf '\\' then
          match text[offset + 1]? with
          | none => throw (.refused (.unterminatedQuote opening))
          | some _ => pure (.inr (offset + 2, true))
        else if octet == octetOf '"' then pure (.inl (offset, escaped))
        else pure (.inr (offset + 1, escaped))

/-- The offset at which an element without quotes ends, and whether a backslash was seen before
it. -/
def unquotedEnd (text : Octets) : Nat × Bool → Scan (Nat × Bool) :=
  loop fun (offset, escaped) =>
    match text[offset]? with
    | none => pure (.inl (offset, escaped))
    | some octet =>
        if octet == octetOf ',' || octet == octetOf '\x7d' then pure (.inl (offset, escaped))
        else if octet == octetOf '\x7b' || octet == octetOf '"' then unexpected text offset
        else if octet == octetOf '\\' then
          match text[offset + 1]? with
          | none => throw (.refused .unexpectedEnd)
          | some _ => pure (.inr (offset + 2, true))
        else pure (.inr (offset + 1, escaped))

/-- The text that an element stands for; only backslashes that were seen are removed. -/
def elementText (raw : List Char) (escaped : Bool) : String :=
  String.ofList (if escaped then unescape raw else raw)

/-- Reads an element in quotes, which starts at an offset. -/
def quoted (text : Octets) (offset : Nat) : Scan (Element × Nat) := do
  let (stop, escaped) ← closingQuote text offset (offset + 1, false)
  let raw ← cut text (offset + 1) stop
  return (.text (elementText raw escaped), stop + 1)

/-- Reads an element without quotes, which starts at an offset. -/
def unquoted (text : Octets) (offset : Nat) : Scan (Element × Nat) := do
  let (stop, escaped) ← unquotedEnd text (offset, false)
  let raw := trim (← cut text offset stop)
  if raw.isEmpty then unexpected text stop
  else if !escaped && spellsNull raw then return (.null, stop)
  else return (.text (elementText raw escaped), stop)

/-- Reads an element. -/
def element (text : Octets) (offset : Nat) : Scan (Element × Nat) :=
  if text[offset]? == some (octetOf '"') then quoted text offset else unquoted text offset

/-- Where a scan of items stands: inside of how many arrays, with which elements read before, and at
which offset. -/
structure Place where
  depth : Nat
  elements : List Element
  offset : Nat

/-- Reads items up to the brace that closes the outermost array: all elements, and the offset behind
that brace. -/
def items (text : Octets) : Place → Scan (List Element × Nat) :=
  loop fun ⟨depth, elements, offset⟩ => do
    let offset ← skipBlanks text offset
    match text[offset]? with
    | none => throw (.refused .unexpectedEnd)
    | some octet =>
        if octet == octetOf '\x7b' then return .inr ⟨depth + 1, elements, offset + 1⟩
        else if octet == octetOf '\x7d' then
          match depth with
          | 0 => throw .depthBelowZero
          | outer + 1 =>
              if outer == 0 then return .inl (elements, offset + 1)
              else
                let next ← skipDelimiter text (offset + 1)
                return .inr ⟨outer, elements, next⟩
        else
          let (element, stop) ← element text offset
          let next ← skipDelimiter text stop
          return .inr ⟨depth, elements ++ [element], next⟩

/-- The text after leading blanks and a dimension decoration. -/
def dropDimensions (literal : String) : Scan String :=
  let trimmed := String.ofList (trimStart literal.toList)
  let text := Octets.ofText trimmed
  if text[0]? == some (octetOf '[') then
    match text.idxOf? (octetOf '=') with
    | none => throw (.refused .malformedDimensions)
    | some index => do
        let rest ← cut text (index + 1) text.length
        return String.ofList rest
  else pure trimmed

/-! ## Counting -/

/-- What a pass over octets has found: the delimiters outside quotes, and whether there is anything
but delimiters, braces and blanks.  It stands inside quotes or not, and behind a backslash or
not. -/
structure Tally where
  delimiters : Nat
  content : Bool
  quoted : Bool
  escaped : Bool

/-- A pass goes on with an octet. -/
def Tally.read (tally : Tally) (octet : UInt8) : Tally :=
  if tally.escaped then { tally with escaped := false }
  else if octet == octetOf '\\' then { tally with content := true, escaped := true }
  else if octet == octetOf '"' then { tally with content := true, quoted := !tally.quoted }
  else if tally.quoted then { tally with content := true }
  else if octet == octetOf ',' then { tally with delimiters := tally.delimiters + 1 }
  else if octet == octetOf '\x7b' || octet == octetOf '\x7d' || isBlankOctet octet then tally
  else { tally with content := true }

/-- The number of elements that a pass expects. -/
def Tally.expected (tally : Tally) : Nat :=
  if tally.content then tally.delimiters + 1 else 0

/-- A scan with a result of its own where the text is refused. -/
def unlessRefused {α : Type} (scan : Scan α) (otherwise : α) : Scan α :=
  ExceptT.mk (scan.run.map fun
    | .error (.refused _) => .ok otherwise
    | outcome => outcome)

/-- An upper bound for the number of elements of a literal.  A text with a decoration that does not
end is counted as a whole. -/
def count (literal : String) : Scan Nat := do
  let body ← unlessRefused (dropDimensions literal) literal
  return ((Octets.ofText body).foldl Tally.read ⟨0, false, false, false⟩).expected

/-! ## Splitting -/

/-- The elements of a literal without decoration. -/
def splitBody (body : String) : Scan (List Element) := do
  let text := Octets.ofText body
  let offset ← skipBlanks text 0
  if text[offset]? == some (octetOf '\x7b') then
    let (elements, stop) ← items text ⟨1, [], offset + 1⟩
    let last ← skipBlanks text stop
    if text[last]?.isSome then throw (.refused .trailingCharacters) else return elements
  else throw (.refused .missingOpeningBrace)

/-- The number of elements for which a buffer is set up, and the elements of a literal from left to
right. -/
def splitBuffered (literal : String) : Scan (Nat × List Element) := do
  let body ← dropDimensions literal
  let capacity ← count body
  let elements ← splitBody body
  return (capacity, elements)

end BankLedger.Sql.ArrayLiteral.Octetwise
