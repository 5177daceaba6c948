import Mathlib.Data.Bool.AllAny
import BankLedger.Proofs.Number.Layout
import BankLedger.Proofs.Sql.ArrayRendering
import BankLedger.Sql.Cell

/-!
# Parameters survive the wire

A value that is sent as a parameter and comes back as a cell of its kind is the same value.  The
texts of numbers and truth values have no character with a meaning of its own in an array literal,
so they are read without quotes; other texts are quoted where they need it.
-/

namespace BankLedger.Sql

open BankLedger.Text

/-- The floating-point numbers in a value. -/
def Value.floats : Value → List Binary64
  | .float number => [number]
  | .floatArray numbers => numbers
  | _ => []

/-! ## Texts of scalars -/

/-- The characters of which the texts of numbers are made. -/
def numberCharacters : List Char :=
  "0123456789.-Infity".toList

/-- A text of such characters. -/
def Numeric (text : List Char) : Prop :=
  text ≠ [] ∧ ∀ character ∈ text, character ∈ numberCharacters

theorem mem_numberCharacters_of_isDigit {digit : Char} (digits : isDigit digit = true) :
    digit ∈ numberCharacters := by
  have ten : ∀ offset < 10, Char.ofNat (48 + offset) ∈ numberCharacters := by decide
  simp only [isDigit, Bool.and_eq_true, decide_eq_true_eq, Char.le_def,
    UInt32.le_iff_toNat_le] at digits
  change 48 ≤ digit.toNat ∧ digit.toNat ≤ 57 at digits
  have member := ten (digit.toNat - 48) (by omega)
  rwa [Nat.add_sub_of_le digits.1, Char.ofNat_toNat] at member

theorem Numeric.ordinary {text : List Char} (numeric : Numeric text) :
    ArrayLiteral.Ordinary text := by
  have all : ∀ character ∈ numberCharacters,
      ArrayLiteral.PlainOutsideQuotes character ∧ isBlank character = false :=
    List.all_iff_forall_prop.mp (by decide)
  exact fun character member => all character (numeric.2 character member)

theorem Numeric.trim_eq {text : List Char} (numeric : Numeric text) : trim text = text :=
  trim_of_solid fun character member => (numeric.ordinary character member).2

theorem Numeric.spellsNull_eq {text : List Char} (numeric : Numeric text) :
    ArrayLiteral.spellsNull text = false := by
  have noLetter : ∀ character ∈ numberCharacters, character.toUpper ≠ 'U' :=
    List.all_iff_forall_prop.mp (by decide)
  refine eq_false_of_ne_true fun spells => ?_
  have letter : 'U' ∈ text.map Char.toUpper := by
    rw [eq_of_beq spells]
    decide
  obtain ⟨character, member, upper⟩ := List.mem_map.mp letter
  exact noLetter character (numeric.2 character member) upper

/-- The text of a number needs no quotes in an array literal. -/
theorem Numeric.readable {text : String} (numeric : Numeric text.toList) :
    ArrayLiteral.Readable (.text text) text.toList := by
  have readable := numeric.ordinary.readable_text numeric.1 numeric.spellsNull_eq
  rwa [String.ofList_toList] at readable

theorem numeric_repr (number : Int) : Numeric number.repr.toList := by
  have digits (natural : Nat) {character : Char} (member : character ∈ natural.repr.toList) :
      character ∈ numberCharacters := by
    rw [Nat.toList_repr] at member
    exact mem_numberCharacters_of_isDigit (isDigit_of_mem_toDigits member)
  rw [Int.repr_eq_if]
  split
  case isTrue =>
    refine ⟨?_, fun character member => digits _ member⟩
    rw [Nat.toList_repr]
    exact Nat.toDigits_ne_nil
  case isFalse =>
    rw [String.toList_append]
    refine ⟨by simp, fun character member => ?_⟩
    rcases List.mem_append.mp member with minus | rest
    · rw [List.mem_singleton.mp minus]
      decide
    · exact digits _ rest

theorem numeric_wireText {number : Binary64} (defined : number.isNaN = false) :
    Numeric number.wireText.toList := by
  have letters : ∀ letter ∈ ".-Infity".toList, letter ∈ numberCharacters :=
    List.all_iff_forall_prop.mp (by decide)
  refine ⟨fun empty => ?_, fun character member => ?_⟩
  · have reads := Binary64.ofText?_wireText defined
    have nothing : Binary64.ofText? [] = none := by decide
    rw [empty, nothing] at reads
    exact absurd reads (Option.some_ne_none number).symm
  · exact (Binary64.of_mem_wireText defined member).elim mem_numberCharacters_of_isDigit
      (letters character)

/-! ## Reading scalars -/

theorem readInt?_toString (value : Int64) : readInt? (toString value.toInt) = some value := by
  change (readInt64 (trim value.toInt.repr.toList)).toOption = some value
  rw [(numeric_repr value.toInt).trim_eq, readInt64_repr]
  rfl

theorem readBool?_boolText (value : Bool) : readBool? (Value.boolText value) = some value := by
  cases value <;> decide

theorem readFloat?_wireText {number : Binary64} (defined : number.isNaN = false) :
    readFloat? number.wireText = some number := by
  rw [readFloat?, (numeric_wireText defined).trim_eq, Binary64.ofText?_wireText defined]

theorem readText?_int (value : Int64) :
    readText? .int (toString value.toInt) = some (.int value) := by
  rw [readText?, readInt?_toString]
  rfl

theorem readText?_bool (value : Bool) :
    readText? .bool (Value.boolText value) = some (.bool value) := by
  rw [readText?, readBool?_boolText]
  rfl

theorem readText?_float {number : Binary64} (defined : number.isNaN = false) :
    readText? .float number.wireText = some (.float number) := by
  rw [readText?, readFloat?_wireText defined]
  rfl

/-! ## Reading arrays -/

section Array

open ArrayLiteral

theorem readable_boolText (value : Bool) :
    Readable (.text (Value.boolText value)) (Value.boolText value).toList := by
  have ordinary : Ordinary (Value.boolText value).toList := by
    cases value <;> exact List.all_iff_forall_prop.mp (by decide)
  have readable := ordinary.readable_text (by cases value <;> decide) (by cases value <;> decide)
  rwa [String.ofList_toList] at readable

/-- The text of a number, and the word for what is no number, need no quotes in an array literal. -/
theorem readable_wireText (number : Binary64) :
    Readable (.text number.wireText) number.wireText.toList := by
  cases undefined : number.isNaN with
  | false => exact (numeric_wireText undefined).readable
  | true =>
      have finite : number.isInfinite = false := by
        rw [Binary64.isNaN, Bool.and_eq_true, bne_iff_ne] at undefined
        rw [Binary64.isInfinite, beq_false_of_ne undefined.2, Bool.and_false]
      have word : number.wireText = "NaN" := by
        simp [Binary64.wireText, finite, Binary64.plainText, undefined]
      have ordinary : Ordinary "NaN".toList := List.all_iff_forall_prop.mp (by decide)
      rw [word]
      exact ordinary.readable_text (by decide) (by decide)

theorem readable_elementText (element : String) :
    Readable (.text element) (elementText element).toList := by
  rw [elementText, String.toList_ofList]
  exact (Rendered.asParameter element).readable

variable {α : Type} {written text : α → String}

/-- The items of a list are separated by commas. -/
theorem items_intercalate {elements : List α} (nonempty : elements ≠ [])
    (readable : ∀ element ∈ elements, Readable (.text (text element)) (written element).toList) :
    Items Readable 0 (",".intercalate (elements.map written)).toList
      (elements.map fun element => .leaf (.text (text element))) := by
  have blank : Blanks [] := by simp [Blanks]
  induction elements with
  | nil => contradiction
  | cons element rest inductionHypothesis =>
      have first := Items.element blank blank (readable element List.mem_cons_self)
      rw [List.nil_append, List.append_nil] at first
      cases rest with
      | nil => simpa using first
      | cons next rest =>
          have others := inductionHypothesis (by simp) fun other member =>
            readable other (List.mem_cons_of_mem _ member)
          simpa [String.intercalate_cons_cons] using first.append others

theorem leavesOfAll_map_leaf (elements : List α) (element : α → Element) :
    leavesOfAll (elements.map fun one => .leaf (element one)) = elements.map element := by
  induction elements with
  | nil => rfl
  | cons one elements inductionHypothesis =>
      simp [leavesOfAll, Tree.leaves, inductionHypothesis]

/-- A list in braces is a literal with a leaf for each element. -/
theorem literal_braced {elements : List α}
    (readable : ∀ element ∈ elements, Readable (.text (text element)) (written element).toList) :
    Literal Readable 0 (Value.braced (elements.map written)).toList
      (elements.map fun element => .leaf (.text (text element))) := by
  have blank : Blanks [] := by simp [Blanks]
  refine ⟨[], [], (Value.braced _).toList, by simp, .none, ?_, rfl⟩
  rw [Value.braced, String.toList_append, String.toList_append]
  cases elements with
  | nil => exact .emptyArray blank blank blank
  | cons element rest => exact .array blank blank (items_intercalate (by simp) readable)

/-- Splitting a list in braces gives its elements. -/
theorem split_braced {elements : List α}
    (readable : ∀ element ∈ elements, Readable (.text (text element)) (written element).toList) :
    split (Value.braced (elements.map written)) = .ok ((elements.map text).map .text) := by
  rw [List.map_map, split_eq_ok_iff, ← leavesOfAll_map_leaf]
  exact ⟨0, _, literal_braced readable, rfl⟩

end Array

theorem readText?_of_isArray {kind : Kind} (array : kind.isArray = true) {text : String}
    {elements : List ArrayLiteral.Element} (splits : ArrayLiteral.split text = .ok elements) :
    readText? kind text = (elementTexts? elements).bind (readElements? kind) := by
  unfold readText?
  split <;> try contradiction
  rw [if_pos array, splits]
  rfl

/-- Reading undoes writing on every element of a list. -/
theorem mapM_map_eq_some {α β : Type} {write : α → β} {read : β → Option α} {elements : List α}
    (inverse : ∀ element ∈ elements, read (write element) = some element) :
    (elements.map write).mapM read = some elements := by
  induction elements with
  | nil => rfl
  | cons element elements inductionHypothesis =>
      rw [List.map_cons, List.mapM_cons, inverse element List.mem_cons_self,
        inductionHypothesis fun other member => inverse other (List.mem_cons_of_mem _ member)]
      rfl

theorem elementTexts?_map_text (texts : List String) :
    elementTexts? (texts.map .text) = some texts :=
  mapM_map_eq_some fun _ _ => rfl

/-- A list in braces is read as an array of its elements. -/
theorem readText?_braced {α : Type} {written text : α → String} {kind : Kind} {elements : List α}
    (array : kind.isArray = true)
    (readable : ∀ element ∈ elements,
      ArrayLiteral.Readable (.text (text element)) (written element).toList) :
    readText? kind (Value.braced (elements.map written)) =
      readElements? kind (elements.map text) := by
  rw [readText?_of_isArray array (split_braced readable), elementTexts?_map_text]
  rfl

theorem readText?_intArray (elements : List Int64) :
    readText? .intArray (Value.braced (elements.map fun value => toString value.toInt)) =
      some (.intArray elements) := by
  have readable (element : Int64) : ArrayLiteral.Readable (.text (toString element.toInt))
      (toString element.toInt).toList := (numeric_repr element.toInt).readable
  rw [readText?_braced rfl fun element _ => readable element, readElements?,
    mapM_map_eq_some fun element _ => readInt?_toString element]
  rfl

theorem readText?_boolArray (elements : List Bool) :
    readText? .boolArray (Value.braced (elements.map Value.boolText)) =
      some (.boolArray elements) := by
  rw [readText?_braced rfl fun element _ => readable_boolText element, readElements?,
    mapM_map_eq_some fun element _ => readBool?_boolText element]
  rfl

theorem readText?_floatArray {elements : List Binary64}
    (defined : ∀ number ∈ elements, number.isNaN = false) :
    readText? .floatArray (Value.braced (elements.map Binary64.wireText)) =
      some (.floatArray elements) := by
  have reads (number : Binary64) (member : number ∈ elements) :
      readFloat? number.wireText = some number := readFloat?_wireText (defined number member)
  rw [readText?_braced rfl fun number _ => readable_wireText number, readElements?,
    mapM_map_eq_some reads]
  rfl

theorem readText?_stringArray (elements : List String) :
    readText? .stringArray (Value.braced (elements.map elementText)) =
      some (.stringArray elements) := by
  rw [readText?_braced rfl fun element _ => readable_elementText element, readElements?,
    List.map_id']

/-! ## Parameters -/

/-- A value comes back if the text that is sent for it is read as the value. -/
theorem comes_back {position : Nat} {value : Value} {text : String}
    (writes : wireText position value = .ok (some text)) (notNull : value ≠ .null)
    (reads : readText? value.kind text = some value) :
    ∃ wire, wireText position value = .ok wire ∧ ∀ kind, value = .null ∨ kind = value.kind →
      decodeCell kind (wire.map Octets.ofText) = value := by
  refine ⟨some text, writes, fun kind fits => ?_⟩
  obtain rfl := fits.resolve_left notNull
  rw [Option.map_some, decodeCell, Octets.toText?_ofText, Option.bind_some, reads, Option.getD_some]

/-- A parameter that can be sent comes back as the same value in a cell of its kind, and a null in a
cell of every kind. -/
theorem parameters_survive_the_wire (position : Nat) (value : Value)
    (sendable : value.kind ∉ [.blob, .blobArray, .invalid])
    (defined : ∀ number ∈ value.floats, number.isNaN = false) :
    ∃ wire, wireText position value = .ok wire ∧ ∀ kind, value = .null ∨ kind = value.kind →
      decodeCell kind (wire.map Octets.ofText) = value := by
  cases value with
  | null => exact ⟨none, rfl, fun _ _ => rfl⟩
  | int number => exact comes_back rfl (by simp) (readText?_int number)
  | bool truth => exact comes_back rfl (by simp) (readText?_bool truth)
  | float number =>
      have reads := readText?_float (defined number List.mem_cons_self)
      exact comes_back rfl (by simp) reads
  | string text => exact comes_back rfl (by simp) rfl
  | intArray numbers => exact comes_back rfl (by simp) (readText?_intArray numbers)
  | boolArray truths => exact comes_back rfl (by simp) (readText?_boolArray truths)
  | floatArray numbers => exact comes_back rfl (by simp) (readText?_floatArray defined)
  | stringArray texts => exact comes_back rfl (by simp) (readText?_stringArray texts)
  | blob octets => exact absurd sendable (by simp [Value.kind])
  | blobArray elements => exact absurd sendable (by simp [Value.kind])
  | invalid => exact absurd sendable (by simp [Value.kind])

/-- Negative zero, the least positive number and an infinity come back with every bit. -/
theorem parameters_survive_the_wire_with_odd_numbers :
    ∃ wire, wireText 1 (.floatArray [⟨0x8000000000000000⟩, ⟨1⟩, ⟨0x7ff0000000000000⟩]) = .ok wire ∧
      decodeCell .floatArray (wire.map Octets.ofText) =
        .floatArray [⟨0x8000000000000000⟩, ⟨1⟩, ⟨0x7ff0000000000000⟩] := by
  obtain ⟨wire, writes, reads⟩ := parameters_survive_the_wire 1
    (.floatArray [⟨0x8000000000000000⟩, ⟨1⟩, ⟨0x7ff0000000000000⟩]) (by decide) (by decide)
  exact ⟨wire, writes, reads .floatArray (.inr rfl)⟩

end BankLedger.Sql
