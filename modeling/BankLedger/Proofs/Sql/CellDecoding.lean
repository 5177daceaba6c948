import BankLedger.Proofs.Sql.Sending
import BankLedger.Proofs.Sql.WireRoundTrip

/-!
# Decoded cells

Decoding is lenient: a number may stand between blanks, a truth value may be a letter or a word in
any case, and an array may be decorated, nested and quoted in many ways.  Whatever the octets are, a
cell becomes a value of the kind of its column or an invalid one.  A value that is not invalid has a
text, and is decoded from that text again.
-/

namespace BankLedger.Sql

open BankLedger.Text

variable {kind : Kind} {text : String} {value : Value}

/-- Whether there are texts that are read as values of a kind. -/
def Kind.isReadable : Kind → Bool
  | .null | .blob | .blobArray | .invalid => false
  | _ => true

/-- Reads an element of an array as a value of a kind; a null is none. -/
def readElement? (kind : Kind) : ArrayLiteral.Element → Option Value
  | .null => none
  | .text text => readText? kind text

/-! ## Elements -/

/-- Members are read together only if each of them can be read. -/
theorem forall_isSome_of_mapM {α β : Type} {read : α → Option β} {members : List α}
    {answers : List β} (all : members.mapM read = some answers) :
    ∀ member ∈ members, (read member).isSome = true := by
  induction members generalizing answers with
  | nil => exact List.forall_mem_nil _
  | cons first others inductionHypothesis =>
      rw [List.mapM_cons] at all
      obtain ⟨answer, found, rest⟩ := Option.bind_eq_some_iff.mp all
      obtain ⟨answers, reads, _⟩ := Option.bind_eq_some_iff.mp rest
      intro member held
      rcases List.mem_cons.mp held with rfl | later
      · exact Option.isSome_of_eq_some found
      · exact inductionHypothesis reads member later

theorem kind_of_readElements? {texts : List String}
    (reads : readElements? kind texts = some value) :
    value.kind = kind ∧ kind.isReadable = true ∧
      ∀ text ∈ texts, (readText? kind.element text).isSome = true := by
  cases kind with
  | intArray | boolArray | floatArray =>
      obtain ⟨elements, all, rfl⟩ := Option.map_eq_some_iff.mp reads
      refine ⟨rfl, rfl, ?_⟩
      intro text member
      have found := forall_isSome_of_mapM all text member
      simpa only [readText?, Kind.element, Option.isSome_map] using found
  | stringArray =>
      cases reads
      exact ⟨rfl, rfl, fun text _ => rfl⟩
  | null | int | bool | float | string | blob | blobArray | invalid => cases reads

/-- The elements of an array are read if none of them is null and each text can be read. -/
theorem forall_isSome_readElement? {elements : List ArrayLiteral.Element} {texts : List String}
    (taken : elementTexts? elements = some texts)
    (each : ∀ text ∈ texts, (readText? kind text).isSome = true) :
    ∀ element ∈ elements, (readElement? kind element).isSome = true := by
  induction elements generalizing texts with
  | nil => exact List.forall_mem_nil _
  | cons first others inductionHypothesis =>
      rw [elementTexts?, List.mapM_cons] at taken
      obtain ⟨text, found, rest⟩ := Option.bind_eq_some_iff.mp taken
      obtain ⟨later, reads, same⟩ := Option.bind_eq_some_iff.mp rest
      cases same
      intro element held
      rcases List.mem_cons.mp held with rfl | other
      · cases element with
        | null => cases found
        | text written =>
            cases found
            exact each _ List.mem_cons_self
      · refine inductionHypothesis reads ?_ element other
        intro text member
        exact each text (List.mem_cons_of_mem _ member)

/-! ## Texts -/

theorem readText?_of_isArray_of_error (array : kind.isArray = true)
    {failure : ArrayLiteral.Failure} (refused : ArrayLiteral.split text = .error failure) :
    readText? kind text = none := by
  unfold readText?
  split <;> try contradiction
  rw [if_pos array, refused]
  rfl

/-- An array is read only if each of its elements can be read. -/
theorem kind_of_readText?_array (array : kind.isArray = true)
    (reads : readText? kind text = some value) :
    value.kind = kind ∧ kind.isReadable = true ∧
      ∀ elements, ArrayLiteral.split text = .ok elements →
        ∀ element ∈ elements, (readElement? kind.element element).isSome = true := by
  cases splits : ArrayLiteral.split text with
  | error failure =>
      rw [readText?_of_isArray_of_error array splits] at reads
      cases reads
  | ok elements =>
      rw [readText?_of_isArray array splits] at reads
      obtain ⟨texts, taken, found⟩ := Option.bind_eq_some_iff.mp reads
      obtain ⟨sameKind, readable, each⟩ := kind_of_readElements? found
      refine ⟨sameKind, readable, ?_⟩
      intro others same
      cases same
      exact forall_isSome_readElement? taken each

/-- What a text is read as is a value of the kind asked for. -/
theorem kind_of_readText? (reads : readText? kind text = some value) :
    value.kind = kind ∧ kind.isReadable = true := by
  cases kind with
  | int | bool | float =>
      obtain ⟨payload, _, rfl⟩ := Option.map_eq_some_iff.mp reads
      exact ⟨rfl, rfl⟩
  | string =>
      cases reads
      exact ⟨rfl, rfl⟩
  | intArray | boolArray | floatArray | stringArray | blobArray =>
      obtain ⟨sameKind, readable, _⟩ := kind_of_readText?_array rfl reads
      exact ⟨sameKind, readable⟩
  | null | blob | invalid => cases reads

/-- A value of a kind that can be read has a text, which is read as the value. -/
theorem exists_text_of_isReadable (readable : value.kind.isReadable = true) :
    ∃ text, Spelled value (some text) ∧
      ((∀ number ∈ value.floats, number.isNaN = false) →
        readText? value.kind text = some value) := by
  cases value with
  | int number => exact ⟨_, fun _ => rfl, fun _ => readText?_int number⟩
  | bool truth => exact ⟨_, fun _ => rfl, fun _ => readText?_bool truth⟩
  | float number =>
      exact ⟨_, fun _ => rfl, fun defined => readText?_float (defined number List.mem_cons_self)⟩
  | string text => exact ⟨text, fun _ => rfl, fun _ => rfl⟩
  | intArray numbers => exact ⟨_, fun _ => rfl, fun _ => readText?_intArray numbers⟩
  | boolArray truths => exact ⟨_, fun _ => rfl, fun _ => readText?_boolArray truths⟩
  | floatArray numbers => exact ⟨_, fun _ => rfl, fun defined => readText?_floatArray defined⟩
  | stringArray texts => exact ⟨_, fun _ => rfl, fun _ => readText?_stringArray texts⟩
  | null | blob | blobArray | invalid => cases readable

/-! ## Cells -/

/-- A cell that arrived is invalid, or its octets are a text that is read as its value. -/
theorem decodeCell_cases (kind : Kind) (octets : Octets) :
    decodeCell kind (some octets) = .invalid ∨
      ∃ text, octets.toText? = some text ∧
        readText? kind text = some (decodeCell kind (some octets)) := by
  rw [decodeCell]
  cases octets.toText? with
  | none => exact .inl rfl
  | some text =>
      rw [Option.bind_some]
      cases read : readText? kind text with
      | none => exact .inl rfl
      | some value => exact .inr ⟨text, rfl, read⟩

theorem decodeCell_ofText (kind : Kind) (text : String) :
    decodeCell kind (some (Octets.ofText text)) = (readText? kind text).getD .invalid := by
  rw [decodeCell, Octets.toText?_ofText, Option.bind_some]

/-- A decoded cell is of the kind of its column and comes back.  A null is null, whatever the kind
of the column.  A cell that arrived, whatever its octets, is never null: it is invalid, or a value
of exactly that kind.  A value that is not invalid can be sent at every position, and unless there
is a number in it that is none, its text is decoded as the same value.  An array with a null or with
one element that cannot be read is invalid as a whole. -/
theorem decoded_cells_have_their_kind_and_come_back (kind : Kind) (octets : Octets) :
    let value := decodeCell kind (some octets)
    decodeCell kind none = .null ∧ value ≠ .null ∧ (value = .invalid ∨ value.kind = kind) ∧
    (value ≠ .invalid →
      ∃ text, (∀ position, wireText position value = .ok (some text)) ∧
        ((∀ number ∈ value.floats, number.isNaN = false) →
          decodeCell kind (some (Octets.ofText text)) = value)) ∧
    (∀ text elements, kind.isArray = true → octets.toText? = some text →
      ArrayLiteral.split text = .ok elements →
      (∃ element ∈ elements, readElement? kind.element element = none) → value = .invalid) := by
  intro value
  rcases decodeCell_cases kind octets with invalid | ⟨text, spelled, reads⟩
  · change value = .invalid at invalid
    rw [invalid]
    refine ⟨rfl, by simp, .inl rfl, fun valid => absurd rfl valid, fun _ _ _ _ _ _ => rfl⟩
  · change readText? kind text = some value at reads
    obtain ⟨sameKind, readable⟩ := kind_of_readText? reads
    refine ⟨rfl, ?notNull, .inr sameKind, fun _ => ?comesBack, ?whole⟩
    case notNull =>
      intro null
      rw [← sameKind, null] at readable
      cases readable
    case comesBack =>
      rw [← sameKind] at readable
      obtain ⟨text, sent, back⟩ := exists_text_of_isReadable readable
      refine ⟨text, sent, ?_⟩
      intro defined
      rw [← sameKind, decodeCell_ofText, back defined, Option.getD_some]
    case whole =>
      rintro other elements array same splits ⟨element, member, unread⟩
      obtain rfl := Option.some.inj (spelled.symm.trans same)
      have read := (kind_of_readText?_array array reads).2.2 elements splits element member
      rw [unread] at read
      cases read

/-- Two integers behind a decoration, one with a sign and one in quotes, come back without either,
and an array of truth values with a null is invalid. -/
theorem decoded_cells_have_their_kind_and_come_back_without_decoration :
    let integers := Octets.ofText "[0:1]=\x7b +7,\"08\"\x7d"
    let truths := Octets.ofText "\x7bt,null\x7d"
    decodeCell .intArray (some integers) = .intArray [7, 8] ∧
      (∃ text, wireText 3 (.intArray [7, 8]) = .ok (some text) ∧
        decodeCell .intArray (some (Octets.ofText text)) = .intArray [7, 8]) ∧
      decodeCell .boolArray (some truths) = .invalid := by
  intro integers truths
  have decoded : decodeCell .intArray (some integers) = .intArray [7, 8] := by decide +kernel
  obtain ⟨_, _, _, comesBack, _⟩ := decoded_cells_have_their_kind_and_come_back .intArray integers
  rw [decoded] at comesBack
  obtain ⟨text, sent, back⟩ := comesBack (by simp)
  obtain ⟨_, _, _, _, whole⟩ := decoded_cells_have_their_kind_and_come_back .boolArray truths
  have splits : ArrayLiteral.split "\x7bt,null\x7d" = .ok [.text "t", .null] := by decide +kernel
  refine ⟨decoded, ⟨text, sent 3, back (by simp [Value.floats])⟩, ?_⟩
  exact whole _ _ rfl (Octets.toText?_ofText _) splits ⟨.null, by simp, rfl⟩

end BankLedger.Sql
