import Mathlib.Data.List.Forall2
import BankLedger.Proofs.Postgres.Writing

/-!
# Requests

What a server makes of the frames of a client.  A server does not know what a client meant to send:
it takes one frame after the other by the lengths that they state, and of each it reads all parts,
names, formats and types included.  This module has that reading for the messages of which queries
are made, and says what it finds in the frames of a query.
-/

namespace BankLedger.Postgres

open BankLedger.Sql

/-! ## Parts -/

namespace BodyReader

variable {Part Written : Type}

/-- The text that octets encode. -/
def encoded (octets : Octets) : BodyReader String :=
  match octets.readText with
  | .error fault => throw (.illFormedText fault)
  | .ok text => return text

/-- A text up to its zero octet. -/
def text : BodyReader String := do
  encoded (← terminated)

/-- A text with its length; a negative length is a null. -/
def nullableText : BodyReader WireText := do
  match ← cell with
  | none => return none
  | some octets => return some (← encoded octets)

/-- As many parts as given, one after the other. -/
def several (part : BodyReader Part) : Nat → BodyReader (List Part)
  | 0 => return []
  | count + 1 => do
      let first ← part
      let others ← several part count
      return first :: others

/-- Some parts with their number. -/
def listed (part : BodyReader Part) : BodyReader (List Part) := do
  several part (← natural 2)

theorem encoded_ofText (text : String) : encoded (Octets.ofText text) = pure text := by
  rw [encoded, Octets.readText_ofText]

theorem reads_text {text : String} (zeroFree : '\x00' ∉ text.toList) :
    Reads BodyReader.text (Octets.ofText text ++ [0]) text := by
  have absent : 0 ∉ Octets.ofText text := by rwa [Octets.zero_mem_ofText_iff]
  rw [← List.append_nil (Octets.ofText text ++ [0])]
  refine (reads_terminated absent).bind ?_
  rw [encoded_ofText]
  exact reads_pure text

/-- An empty text is a zero octet alone. -/
theorem reads_text_empty : Reads BodyReader.text [0] "" :=
  have zeroFree : '\x00' ∉ "".toList := by decide
  reads_text zeroFree

theorem reads_nullableText {value : WireText}
    (short : ∀ text ∈ value, (Octets.ofText text).length ≤ ClientMessage.longest) :
    Reads nullableText (ClientMessage.parameterOctets value) value := by
  have small : ∀ octets ∈ value.map Octets.ofText, octets.length < 0x80000000 := by
    intro octets member
    obtain ⟨text, held, rfl⟩ := Option.map_eq_some_iff.mp member
    exact Nat.lt_succ_of_le (short text held)
  rw [← List.append_nil (ClientMessage.parameterOctets value)]
  refine (reads_cell small).bind ?_
  cases value with
  | none => exact reads_pure none
  | some text =>
      simp only [Option.map_some, encoded_ofText]
      exact reads_pure (some text)

theorem reads_several {reader : BodyReader Part} (octets : Written → Octets) (part : Written → Part)
    {written : List Written} (each : ∀ one ∈ written, Reads reader (octets one) (part one)) :
    Reads (several reader written.length) (written.flatMap octets) (written.map part) := by
  induction written with
  | nil => exact reads_pure []
  | cons first others inductionHypothesis =>
      rw [List.forall_mem_cons] at each
      rw [List.flatMap_cons, ← List.append_nil (others.flatMap octets)]
      exact each.1.bind ((inductionHypothesis each.2).bind (reads_pure _))

theorem reads_listed {reader : BodyReader Part} (octets : Written → Octets) (part : Written → Part)
    {written : List Written} (few : written.length < 0x10000)
    (each : ∀ one ∈ written, Reads reader (octets one) (part one)) :
    Reads (listed reader) (Octets.ofNat16 written.length ++ written.flatMap octets)
      (written.map part) :=
  (reads_natural_two few).bind (reads_several octets part each)

/-- No parts are their number alone. -/
theorem reads_listed_nil (reader : BodyReader Part) :
    Reads (listed reader) (Octets.ofNat16 0) [] := by
  rw [← List.append_nil (Octets.ofNat16 0)]
  exact (reads_natural_two (by decide)).bind (reads_pure [])

end BodyReader

/-! ## Messages -/

/-- A message of a client with all parts that a server reads of it. -/
inductive Request
  | parse (statement text : String) (types : List Nat)
  | bind (portal statement : String) (formats : List Nat) (values : List WireText)
      (resultFormats : List Nat)
  | describe (kind : Char) (name : String)
  | execute (portal : String) (limit : Nat)
  | sync
  | copyFail (reason : String)
deriving DecidableEq

namespace Request

open BodyReader

/-- The message in a body, by the tag of its frame. -/
def ofBody (tag : UInt8) : BodyReader Request := do
  match Char.ofNat tag.toNat with
  | 'P' =>
      let statement ← BodyReader.text
      let query ← BodyReader.text
      return .parse statement query (← listed (natural 4))
  | 'B' =>
      let portal ← BodyReader.text
      let statement ← BodyReader.text
      let formats ← listed (natural 2)
      let values ← listed nullableText
      return .bind portal statement formats values (← listed (natural 2))
  | 'D' =>
      let kind ← natural 1
      return .describe (Char.ofNat kind) (← BodyReader.text)
  | 'E' =>
      let portal ← BodyReader.text
      return .execute portal (← natural 4)
  | 'S' => return .sync
  | 'f' => return .copyFail (← BodyReader.text)
  | _ => throw (.unknownTag tag)

/-- The message in a frame. -/
def ofFrame (frame : Frame) : Except Malformed Request :=
  let whole : BodyReader Request := do
    let request ← ofBody frame.tag
    finished .body
    return request
  whole.run' frame.body

/-- The messages that a stream is made of, if it is made of whole frames that can be read. -/
def all? (stream : Octets) : Option (List Request) :=
  match found : Frame.read stream with
  | .whole frame rest =>
      have := Frame.length_of_read found
      match ofFrame frame with
      | .error _ => none
      | .ok request => (all? rest).map (request :: ·)
  | _ => if stream.isEmpty then some [] else none
termination_by stream.length

/-- The messages of a query: its text without a name and without types for its parameters, the
parameters for the portal without a name, all in the default format, the description of that portal,
its execution without a limit, and the request to answer. -/
def ofQuery (text : String) (parameters : List WireText) : List Request :=
  [.parse "" text [], .bind "" "" [] parameters [], .describe 'P' "", .execute "" 0, .sync]

/-- The messages that refuse a copy. -/
def ofRefusal : List Request :=
  [.copyFail "COPY is not supported", .sync]

theorem ofFrame_eq {frame : Frame} {request : Request}
    (exhausts : Exhausts (ofBody frame.tag) frame.body request) :
    ofFrame frame = .ok request := by
  have nothing : Exhausts (finished .body) [] () := rfl
  exact (exhausts.bind (nothing.bind (exhausts_pure request))).run'_eq

/-! ## Streams -/

theorem all?_nil : all? [] = some [] := by
  rw [all?]
  rfl

theorem all?_octets_append {frame : Frame} (fits : frame.body.length + 4 < 0x100000000)
    {request : Request} (known : ofFrame frame = .ok request) (rest : Octets) :
    all? (frame.octets ++ rest) = (all? rest).map (request :: ·) := by
  have found := Frame.read_octets fits rest
  rw [all?]
  split
  next other after same =>
    cases found.symm.trans same
    simp only [known]
  next none => exact absurd found (none _ _)

/-- A frame that holds a message. -/
structure Carries (frame : Frame) (request : Request) : Prop where
  fits : frame.body.length + 4 < 0x100000000
  holds : ofFrame frame = .ok request

/-- Frames that hold messages are read as these messages, whatever follows them. -/
theorem all?_flatMap_append {frames : List Frame} {requests : List Request}
    (carry : List.Forall₂ Carries frames requests) (rest : Octets) :
    all? (frames.flatMap Frame.octets ++ rest) = (all? rest).map (requests ++ ·) := by
  induction carry with
  | nil =>
      rw [List.flatMap_nil, List.nil_append]
      cases all? rest <;> rfl
  | cons carries _ inductionHypothesis =>
      rw [List.flatMap_cons, List.append_assoc, all?_octets_append carries.fits carries.holds,
        inductionHypothesis, Option.map_map]
      rfl

/-! ## The frames of a query -/

open ClientMessage

variable {text : String} {parameters : List WireText}

theorem carries_parse (statable : Statable text) :
    Carries ⟨UInt8.ofNat 'P'.toNat, statementBody text⟩ (.parse "" text []) := by
  refine ⟨Nat.lt_of_le_of_lt statable.fits (by decide), ofFrame_eq ?_⟩
  have body : statementBody text =
      [0] ++ ((Octets.ofText text ++ [0]) ++ Octets.ofNat16 0) := rfl
  rw [body]
  exact reads_text_empty.bind_exhausts <| (reads_text statable.zeroFree).bind_exhausts <|
    (reads_listed_nil _).exhausts.bind (exhausts_pure _)

theorem carries_bind (listable : Listable parameters)
    (fits : (listBody parameters).length + 4 ≤ longest) :
    Carries ⟨UInt8.ofNat 'B'.toNat, listBody parameters⟩ (.bind "" "" [] parameters []) := by
  refine ⟨Nat.lt_of_le_of_lt fits (by decide), ofFrame_eq ?_⟩
  have body : listBody parameters =
      [0] ++ ([0] ++ (Octets.ofNat16 0 ++
        ((Octets.ofNat16 parameters.length ++ parameters.flatMap parameterOctets) ++
          Octets.ofNat16 0))) := by
    simp only [listBody, List.append_assoc, List.cons_append, List.nil_append]
  have values := reads_listed parameterOctets id (Nat.lt_succ_of_le listable.few)
    fun value member => reads_nullableText (listable.short value member)
  rw [List.map_id] at values
  rw [body]
  exact reads_text_empty.bind_exhausts <| reads_text_empty.bind_exhausts <|
    (reads_listed_nil _).bind_exhausts <| values.bind_exhausts <|
      (reads_listed_nil _).exhausts.bind (exhausts_pure _)

theorem carries_describe :
    Carries ⟨UInt8.ofNat 'D'.toNat, Octets.ofText "P" ++ [0]⟩ (.describe 'P' "") :=
  ⟨by decide, ofFrame_eq <|
    (reads_natural_one 80).bind_exhausts (reads_text_empty.exhausts.bind (exhausts_pure _))⟩

theorem carries_execute :
    Carries ⟨UInt8.ofNat 'E'.toNat, 0 :: Octets.ofNat32 0⟩ (.execute "" 0) :=
  ⟨by decide, ofFrame_eq <| reads_text_empty.bind_exhausts <|
    (reads_natural_four (by decide)).exhausts.bind (exhausts_pure _)⟩

theorem carries_sync : Carries ⟨UInt8.ofNat 'S'.toNat, []⟩ .sync :=
  ⟨by decide, ofFrame_eq (exhausts_pure _)⟩

/-- The frames of a query hold its messages. -/
theorem carries_frames (sendable : Sendable text parameters) :
    List.Forall₂ Carries (frames text parameters) (ofQuery text parameters) :=
  .cons (carries_parse sendable.statable) <| .cons (carries_bind sendable.listable sendable.fits) <|
    .cons carries_describe <| .cons carries_execute <| .cons carries_sync .nil

end Request

end BankLedger.Postgres
