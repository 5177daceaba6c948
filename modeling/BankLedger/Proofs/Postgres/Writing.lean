import BankLedger.Postgres.ClientMessage
import BankLedger.Proofs.Postgres.Utterance
import BankLedger.Proofs.Text.Octets

/-!
# Writing a query

The five messages of a query are written one after the other, each as a frame.  Whether a query can
be written is settled by its text and its parameters before anything is sent: a text with a zero
octet cannot be stated, more parameters or longer ones than a frame has numbers for cannot be
listed, and a frame has a greatest length.  The cause of a refusal tells these apart only in part: a
query that cannot be stated fails like one whose transport failed.
-/

namespace BankLedger

/-! ## Zero octets of a text -/

namespace Octets

theorem zero_mem_utf8EncodeChar_iff (character : Char) :
    0 ∈ String.utf8EncodeChar character ↔ character = '\x00' := by
  constructor
  · intro member
    by_cases ascii : character.toNat < 0x80
    case pos =>
      rw [utf8EncodeChar_of_ascii ascii, List.mem_singleton, ← UInt8.toNat_inj,
        toNat_octet (by omega)] at member
      exact Char.toNat_inj.mp member.symm
    case neg =>
      -- The octets of a longer character all have their highest bit.
      obtain ⟨lead, others, octets, large, continues⟩ :=
        utf8EncodeChar_of_wide (Nat.not_lt.mp ascii)
      rw [octets] at member
      rcases List.mem_cons.mp member with rfl | later
      · exact absurd large (by decide)
      · exact absurd (continues 0 later).1 (by decide)
  · rintro rfl
    decide

theorem zero_mem_ofText_iff (text : String) : 0 ∈ ofText text ↔ '\x00' ∈ text.toList := by
  rw [ofText_eq_flatMap, List.mem_flatMap]
  constructor
  · rintro ⟨character, member, zero⟩
    rwa [← (zero_mem_utf8EncodeChar_iff character).mp zero]
  · intro member
    exact ⟨_, member, (zero_mem_utf8EncodeChar_iff _).mpr rfl⟩

end Octets

namespace Postgres

open BankLedger.Database BankLedger.Sql

namespace ClientMessage

/-! ## Frames of a query -/

/-- A parameter as it is written. -/
def parameterOctets (parameter : WireText) : Octets :=
  cellOctets (parameter.map Octets.ofText)

/-- The body of the frame that states the text of a query. -/
def statementBody (text : String) : Octets :=
  0 :: (Octets.ofText text ++ [0]) ++ Octets.ofNat16 0

/-- The body of the frame that lists the parameters of a query. -/
def listBody (parameters : List WireText) : Octets :=
  0 :: 0 :: Octets.ofNat16 0 ++
    (Octets.ofNat16 parameters.length ++ parameters.flatMap parameterOctets) ++ Octets.ofNat16 0

/-- The frames of a query. -/
def frames (text : String) (parameters : List WireText) : List Frame :=
  [⟨UInt8.ofNat 'P'.toNat, statementBody text⟩, ⟨UInt8.ofNat 'B'.toNat, listBody parameters⟩,
    ⟨UInt8.ofNat 'D'.toNat, Octets.ofText "P" ++ [0]⟩,
    ⟨UInt8.ofNat 'E'.toNat, 0 :: Octets.ofNat32 0⟩, ⟨UInt8.ofNat 'S'.toNat, []⟩]

/-! ## What can be written -/

/-- Whether the text of a query can be stated: it holds no character zero, and a frame has room for
it. -/
structure Statable (text : String) : Prop where
  zeroFree : '\x00' ∉ text.toList
  fits : (statementBody text).length + 4 ≤ longest

/-- Whether parameters can be listed: there are numbers for how many they are and for how long each
of them is. -/
structure Listable (parameters : List WireText) : Prop where
  short : ∀ parameter ∈ parameters, ∀ value ∈ parameter, (Octets.ofText value).length ≤ longest
  few : parameters.length ≤ 65535

/-- Whether a query can be sent. -/
structure Sendable (text : String) (parameters : List WireText) : Prop where
  statable : Statable text
  listable : Listable parameters
  fits : (listBody parameters).length + 4 ≤ longest

/-- Whether a query is refused with the cause of a failed transport. -/
def Unwritable (text : String) (parameters : List WireText) : Prop :=
  ¬Statable text ∨ Listable parameters ∧ longest < (listBody parameters).length + 4

/-! ## One message -/

section

variable {message : ClientMessage}

theorem encode_of_written {tag : Char} (tagged : message.tag? = some tag) {body : Octets}
    (written : message.body = .ok body) :
    message.encode =
      if longest < body.length + 4 then .error (.transport "value too large to transmit")
      else .ok (Frame.mk (UInt8.ofNat tag.toNat) body).octets := by
  rw [encode, written, tagged]
  rfl

theorem encode_of_refused {failure : ConnectionFailure} (refused : message.body = .error failure) :
    message.encode = .error failure := by
  rw [encode, refused]
  rfl

theorem encodeAll_cons_of_ok {octets : Octets} (encodes : message.encode = .ok octets)
    (others : List ClientMessage) :
    encodeAll (message :: others) = (encodeAll others).map (octets ++ ·) := by
  rw [encodeAll, encodes]
  cases encodeAll others <;> rfl

theorem encodeAll_cons_of_error {failure : ConnectionFailure}
    (fails : message.encode = .error failure) (others : List ClientMessage) :
    encodeAll (message :: others) = .error failure := by
  rw [encodeAll, fails]
  rfl

end

/-! ## The statement -/

section

variable {text : String}

theorem body_parse_of_zeroFree (zeroFree : '\x00' ∉ text.toList) :
    (parse text).body = .ok (statementBody text) := by
  have absent : ¬(Octets.ofText text).contains 0 = true := by
    rwa [List.contains_iff_mem, Octets.zero_mem_ofText_iff]
  rw [body, terminated, if_neg absent]
  rfl

theorem body_parse_of_zero (zero : '\x00' ∈ text.toList) :
    (parse text).body = .error (.transport "string contains embedded null") := by
  have present : (Octets.ofText text).contains 0 = true := by
    rwa [List.contains_iff_mem, Octets.zero_mem_ofText_iff]
  rw [body, terminated, if_pos present]
  rfl

theorem encode_parse_of_statable (statable : Statable text) :
    (parse text).encode = .ok (Frame.mk (UInt8.ofNat 'P'.toNat) (statementBody text)).octets := by
  rw [encode_of_written rfl (body_parse_of_zeroFree statable.zeroFree),
    if_neg (Nat.not_lt.mpr statable.fits)]

theorem exists_encode_parse_of_not_statable (unstatable : ¬Statable text) :
    ∃ cause, (parse text).encode = .error (.transport cause) := by
  by_cases zero : '\x00' ∈ text.toList
  · exact ⟨_, encode_of_refused (body_parse_of_zero zero)⟩
  · have long : longest < (statementBody text).length + 4 :=
      Nat.not_le.mp fun fits => unstatable ⟨zero, fits⟩
    refine ⟨"value too large to transmit", ?_⟩
    rw [encode_of_written rfl (body_parse_of_zeroFree zero), if_pos long]

end

/-! ## The parameters -/

/-- The failure of a query whose parameters cannot be listed. -/
def tooLarge : ConnectionFailure :=
  .protocol "value too large to transmit"

theorem parameter_of_short {value : WireText}
    (short : ∀ text ∈ value, (Octets.ofText text).length ≤ longest) :
    parameter value = .ok (parameterOctets value) := by
  cases value with
  | none => rfl
  | some text =>
      rw [parameter]
      exact if_neg (Nat.not_lt.mpr (short text rfl))

theorem parameter_of_long {text : String} (long : longest < (Octets.ofText text).length) :
    parameter (some text) = .error tooLarge :=
  if_pos long

theorem mapM_parameter_of_short {parameters : List WireText}
    (short : ∀ value ∈ parameters, ∀ text ∈ value, (Octets.ofText text).length ≤ longest) :
    parameters.mapM parameter = .ok (parameters.map parameterOctets) := by
  induction parameters with
  | nil => rfl
  | cons value others inductionHypothesis =>
      rw [List.forall_mem_cons] at short
      rw [List.mapM_cons, parameter_of_short short.1, inductionHypothesis short.2]
      rfl

theorem mapM_parameter_of_long {parameters : List WireText}
    (long : ¬∀ value ∈ parameters, ∀ text ∈ value, (Octets.ofText text).length ≤ longest) :
    parameters.mapM parameter = .error tooLarge := by
  induction parameters with
  | nil => exact absurd (by simp) long
  | cons value others inductionHypothesis =>
      rw [List.mapM_cons]
      by_cases short : ∀ text ∈ value, (Octets.ofText text).length ≤ longest
      · have later := inductionHypothesis fun rest =>
          long (List.forall_mem_cons.mpr ⟨short, rest⟩)
        rw [parameter_of_short short, later]
        rfl
      · cases value with
        | none => exact absurd (by simp) short
        | some text =>
            have exceeds : longest < (Octets.ofText text).length := by simpa using short
            rw [parameter_of_long exceeds]
            rfl

theorem counted_of_listable {parameters : List WireText} (listable : Listable parameters) :
    counted parameters =
      .ok (Octets.ofNat16 parameters.length ++ parameters.flatMap parameterOctets) := by
  rw [counted, mapM_parameter_of_short listable.short]
  exact if_neg (Nat.not_lt.mpr listable.few)

theorem counted_of_not_listable {parameters : List WireText} (unlistable : ¬Listable parameters) :
    counted parameters = .error tooLarge := by
  rw [counted]
  by_cases short : ∀ value ∈ parameters, ∀ text ∈ value, (Octets.ofText text).length ≤ longest
  · have many : 65535 < parameters.length := Nat.not_le.mp fun few => unlistable ⟨short, few⟩
    rw [mapM_parameter_of_short short]
    exact if_pos many
  · rw [mapM_parameter_of_long short]
    rfl

theorem encode_bind_of_listable {parameters : List WireText} (listable : Listable parameters) :
    (bind parameters).encode =
      if longest < (listBody parameters).length + 4 then
        .error (.transport "value too large to transmit")
      else .ok (Frame.mk (UInt8.ofNat 'B'.toNat) (listBody parameters)).octets := by
  refine encode_of_written rfl ?_
  rw [body, counted_of_listable listable]
  rfl

theorem encode_bind_of_not_listable {parameters : List WireText}
    (unlistable : ¬Listable parameters) : (bind parameters).encode = .error tooLarge := by
  refine encode_of_refused ?_
  rw [body, counted_of_not_listable unlistable]
  rfl

/-! ## The query -/

variable {text : String} {parameters : List WireText}

theorem encodeAll_ofQuery_of_sendable (sendable : Sendable text parameters) :
    encodeAll (ofQuery text parameters) = .ok ((frames text parameters).flatMap Frame.octets) := by
  have listed := encode_bind_of_listable sendable.listable
  rw [if_neg (Nat.not_lt.mpr sendable.fits)] at listed
  rw [ofQuery, encodeAll_cons_of_ok (encode_parse_of_statable sendable.statable),
    encodeAll_cons_of_ok listed]
  rfl

theorem encodeAll_ofQuery_of_not_listable (statable : Statable text)
    (unlistable : ¬Listable parameters) :
    encodeAll (ofQuery text parameters) = .error tooLarge := by
  rw [ofQuery, encodeAll_cons_of_ok (encode_parse_of_statable statable),
    encodeAll_cons_of_error (encode_bind_of_not_listable unlistable)]
  rfl

theorem exists_encodeAll_ofQuery_of_unwritable (unwritable : Unwritable text parameters) :
    ∃ cause, encodeAll (ofQuery text parameters) = .error (.transport cause) := by
  by_cases statable : Statable text
  · obtain ⟨listable, long⟩ := unwritable.resolve_left (not_not_intro statable)
    have listed := encode_bind_of_listable listable
    rw [if_pos long] at listed
    refine ⟨"value too large to transmit", ?_⟩
    rw [ofQuery, encodeAll_cons_of_ok (encode_parse_of_statable statable),
      encodeAll_cons_of_error listed]
    rfl
  · obtain ⟨cause, fails⟩ := exists_encode_parse_of_not_statable statable
    exact ⟨cause, encodeAll_cons_of_error fails _⟩

/-- A query can be sent, or it is refused for one of two causes. -/
theorem sendable_or_refused (text : String) (parameters : List WireText) :
    Sendable text parameters ∨ Unwritable text parameters ∨
      Statable text ∧ ¬Listable parameters := by
  by_cases statable : Statable text
  · by_cases listable : Listable parameters
    · by_cases fits : (listBody parameters).length + 4 ≤ longest
      · exact .inl ⟨statable, listable, fits⟩
      · exact .inr (.inl (.inr ⟨listable, Nat.not_le.mp fits⟩))
    · exact .inr (.inr ⟨statable, listable⟩)
  · exact .inr (.inl (.inl statable))

theorem sendable_of_encodeAll {octets : Octets}
    (encodes : encodeAll (ofQuery text parameters) = .ok octets) : Sendable text parameters := by
  rcases sendable_or_refused text parameters with sendable | unwritable | ⟨statable, unlistable⟩
  · exact sendable
  · obtain ⟨cause, fails⟩ := exists_encodeAll_ofQuery_of_unwritable unwritable
    cases fails.symm.trans encodes
  · cases (encodeAll_ofQuery_of_not_listable statable unlistable).symm.trans encodes

theorem not_sendable_of_encodeAll {failure : ConnectionFailure}
    (fails : encodeAll (ofQuery text parameters) = .error failure) :
    ¬Sendable text parameters := by
  intro sendable
  cases (encodeAll_ofQuery_of_sendable sendable).symm.trans fails

/-- A query that is refused blames the transport exactly if it is unwritable. -/
theorem refusal_of_encodeAll {failure : ConnectionFailure}
    (fails : encodeAll (ofQuery text parameters) = .error failure) :
    Unwritable text parameters ∧ (∃ cause, failure = .transport cause) ∨
      ¬Unwritable text parameters ∧ failure = tooLarge := by
  rcases sendable_or_refused text parameters with sendable | unwritable | ⟨statable, unlistable⟩
  · exact absurd sendable (not_sendable_of_encodeAll fails)
  · obtain ⟨cause, known⟩ := exists_encodeAll_ofQuery_of_unwritable unwritable
    exact .inl ⟨unwritable, cause, Except.error.inj (fails.symm.trans known)⟩
  · refine .inr ⟨?_, Except.error.inj
      (fails.symm.trans (encodeAll_ofQuery_of_not_listable statable unlistable))⟩
    rintro (unstatable | ⟨listable, _⟩)
    · exact unstatable statable
    · exact unlistable listable

theorem not_unwritable_of_sendable (sendable : Sendable text parameters) :
    ¬Unwritable text parameters := by
  rintro (unstatable | ⟨_, long⟩)
  · exact unstatable sendable.statable
  · exact Nat.not_lt.mpr sendable.fits long

end ClientMessage

end Postgres

end BankLedger
