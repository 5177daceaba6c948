import BankLedger.Proofs.Postgres.Reading

/-!
# What a server can say

The messages of a server with all of their parts, and the frames that carry them.  A session keeps
only some of the parts.  Every message whose parts can be written is read from the front of a stream
as what a session keeps of it, and what it keeps as octets reads as the parts that were written.
-/

namespace BankLedger.Postgres

/-- A column as a server describes it. -/
structure Column where
  name : String
  table : UInt32
  number : UInt16
  typeId : UInt32
  size : UInt16
  modifier : UInt32
  format : UInt16

namespace Column

/-- What a session keeps of a column. -/
def field (column : Column) : Field :=
  ⟨column.name, column.typeId.toNat⟩

/-- A column as it is written. -/
def octets (column : Column) : Octets :=
  (Octets.ofText column.name ++ [0]) ++ (Octets.ofNat32 column.table.toNat ++
    (Octets.ofNat16 column.number.toNat ++ (Octets.ofNat32 column.typeId.toNat ++
      (Octets.ofNat16 column.size.toNat ++ (Octets.ofNat32 column.modifier.toNat ++
        Octets.ofNat16 column.format.toNat)))))

end Column

/-- A cell as it is written: its length and its octets, or the length -1 for a null. -/
def cellOctets : RawCell → Octets
  | none => Octets.ofNat32 0xffffffff
  | some octets => Octets.ofNat32 octets.length ++ octets

/-- Tagged fields as they are written. -/
def fieldOctets (fields : List (UInt8 × Octets)) : Octets :=
  (fields.flatMap fun field => field.1 :: (field.2 ++ [0])) ++ [0]

/-- A way to authenticate that a session does not know. -/
inductive ForeignAuthentication
  | kerberos
  | credential
  | gss
  | gssContinue (data : Octets)
  | sspi

/-- A message of a server. -/
inductive Utterance
  | authenticated
  | passwordRequest
  | md5Request (salt : Octets)
  | saslRequest (mechanisms : List Octets)
  | saslContinue (data : Octets)
  | saslFinal (data : Octets)
  | foreignAuthentication (request : ForeignAuthentication)
  | parameterStatus (name value : Octets)
  | keyData (process secret : UInt32)
  | ready (status : UInt8)
  | parseComplete
  | bindComplete
  | closeComplete
  | noData
  | emptyQuery
  | portalSuspended
  | parameterDescription (types : List UInt32)
  | rowDescription (columns : List Column)
  | dataRow (cells : List RawCell)
  | commandComplete (tag : Octets)
  | copyIn (format : UInt8) (columns : List UInt16)
  | copyOut (format : UInt8) (columns : List UInt16)
  | copyData (data : Octets)
  | copyDone
  | notification (process : UInt32) (channel payload : Octets)
  | notice (fields : List (UInt8 × Octets))
  | report (fields : List (UInt8 × Octets))

namespace Utterance

/-- The tag of the frame of a message. -/
def tag : Utterance → Char
  | .authenticated | .passwordRequest | .md5Request _ | .saslRequest _ | .saslContinue _
  | .saslFinal _ | .foreignAuthentication _ => 'R'
  | .parameterStatus .. => 'S'
  | .keyData .. => 'K'
  | .ready _ => 'Z'
  | .parseComplete => '1'
  | .bindComplete => '2'
  | .closeComplete => '3'
  | .noData => 'n'
  | .emptyQuery => 'I'
  | .portalSuspended => 's'
  | .parameterDescription _ => 't'
  | .rowDescription _ => 'T'
  | .dataRow _ => 'D'
  | .commandComplete _ => 'C'
  | .copyIn .. => 'G'
  | .copyOut .. => 'H'
  | .copyData _ => 'd'
  | .copyDone => 'c'
  | .notification .. => 'A'
  | .notice _ => 'N'
  | .report _ => 'E'

/-- The body of the frame of a message. -/
def body : Utterance → Octets
  | .authenticated => Octets.ofNat32 0
  | .passwordRequest => Octets.ofNat32 3
  | .md5Request salt => Octets.ofNat32 5 ++ salt
  | .saslRequest mechanisms =>
      Octets.ofNat32 10 ++ (mechanisms.flatMap (· ++ [0]) ++ [0])
  | .saslContinue data => Octets.ofNat32 11 ++ data
  | .saslFinal data => Octets.ofNat32 12 ++ data
  | .foreignAuthentication .kerberos => Octets.ofNat32 2
  | .foreignAuthentication .credential => Octets.ofNat32 6
  | .foreignAuthentication .gss => Octets.ofNat32 7
  | .foreignAuthentication (.gssContinue data) => Octets.ofNat32 8 ++ data
  | .foreignAuthentication .sspi => Octets.ofNat32 9
  | .parameterStatus name value => (name ++ [0]) ++ (value ++ [0])
  | .keyData process secret => Octets.ofNat32 process.toNat ++ Octets.ofNat32 secret.toNat
  | .ready status => [status]
  | .parameterDescription types =>
      Octets.ofNat16 types.length ++ types.flatMap fun type => Octets.ofNat32 type.toNat
  | .rowDescription columns => Octets.ofNat16 columns.length ++ columns.flatMap Column.octets
  | .dataRow cells => Octets.ofNat16 cells.length ++ cells.flatMap cellOctets
  | .commandComplete tag => tag ++ [0]
  | .copyIn format columns | .copyOut format columns =>
      [format] ++ (Octets.ofNat16 columns.length ++
        columns.flatMap fun format => Octets.ofNat16 format.toNat)
  | .copyData data => data
  | .notification process channel payload =>
      Octets.ofNat32 process.toNat ++ ((channel ++ [0]) ++ (payload ++ [0]))
  | .notice fields | .report fields => fieldOctets fields
  | .parseComplete | .bindComplete | .closeComplete | .noData | .emptyQuery | .portalSuspended
  | .copyDone => []

/-- The frame that carries a message. -/
def frame (utterance : Utterance) : Frame :=
  ⟨UInt8.ofNat utterance.tag.toNat, utterance.body⟩

/-- A message as it is sent. -/
def octets (utterance : Utterance) : Octets :=
  utterance.frame.octets

/-- What a session keeps of a message. -/
def meaning : Utterance → ServerMessage
  | .authenticated => .authenticated
  | .passwordRequest => .passwordRequest
  | .md5Request salt => .md5Request salt
  | .saslRequest mechanisms => .saslRequest (mechanisms.flatMap (· ++ [0]) ++ [0])
  | .saslContinue data => .saslContinue data
  | .saslFinal data => .saslFinal data
  | .foreignAuthentication _ => .otherAuthentication
  | .parameterStatus .. => .parameterStatus
  | .keyData .. => .keyData
  | .ready _ => .ready
  | .parseComplete => .parseComplete
  | .bindComplete => .bindComplete
  | .closeComplete => .closeComplete
  | .noData => .noData
  | .emptyQuery => .emptyQuery
  | .portalSuspended => .portalSuspended
  | .parameterDescription _ => .parameterDescription
  | .rowDescription columns => .rowDescription columns.length (columns.flatMap Column.octets)
  | .dataRow cells => .dataRow cells.length (cells.flatMap cellOctets)
  | .commandComplete _ => .commandComplete
  | .copyIn .. => .copyIn
  | .copyOut .. => .copyOut
  | .copyData _ => .copyData
  | .copyDone => .copyDone
  | .notification .. => .notification
  | .notice fields => .notice (fieldOctets fields)
  | .report fields => .report (fieldOctets fields)

/-- Whether the parts of a message can be written: texts hold no zero octet, and numbers of parts
and lengths of cells have room in their octets. -/
def Writable : Utterance → Prop
  | .md5Request salt => salt.length = 4
  | .saslRequest mechanisms => ∀ name ∈ mechanisms, name ≠ [] ∧ 0 ∉ name
  | .parameterStatus name value => 0 ∉ name ∧ 0 ∉ value
  | .parameterDescription types => types.length < 0x10000
  | .rowDescription columns =>
      columns.length < 0x10000 ∧ ∀ column ∈ columns, 0 ∉ Octets.ofText column.name
  | .dataRow cells =>
      cells.length < 0x10000 ∧ ∀ cell ∈ cells, ∀ octets ∈ cell, octets.length < 0x80000000
  | .commandComplete tag => 0 ∉ tag
  | .copyIn _ columns | .copyOut _ columns => columns.length < 0x10000
  | .notification _ channel payload => 0 ∉ channel ∧ 0 ∉ payload
  | .notice fields | .report fields => ∀ field ∈ fields, field.1 ≠ 0 ∧ 0 ∉ field.2
  | _ => True

instance : DecidablePred Writable
  | .md5Request salt => inferInstanceAs (Decidable (salt.length = 4))
  | .saslRequest mechanisms =>
      inferInstanceAs (Decidable (∀ name ∈ mechanisms, name ≠ [] ∧ 0 ∉ name))
  | .parameterStatus name value => inferInstanceAs (Decidable (0 ∉ name ∧ 0 ∉ value))
  | .parameterDescription types => inferInstanceAs (Decidable (types.length < 0x10000))
  | .rowDescription columns => inferInstanceAs (Decidable (columns.length < 0x10000 ∧
      ∀ column ∈ columns, 0 ∉ Octets.ofText column.name))
  | .dataRow cells => inferInstanceAs (Decidable (cells.length < 0x10000 ∧
      ∀ cell ∈ cells, ∀ octets ∈ cell, octets.length < 0x80000000))
  | .commandComplete tag => inferInstanceAs (Decidable (0 ∉ tag))
  | .copyIn _ columns | .copyOut _ columns =>
      inferInstanceAs (Decidable (columns.length < 0x10000))
  | .notification _ channel payload =>
      inferInstanceAs (Decidable (0 ∉ channel ∧ 0 ∉ payload))
  | .notice fields | .report fields =>
      inferInstanceAs (Decidable (∀ field ∈ fields, field.1 ≠ 0 ∧ 0 ∉ field.2))
  | .authenticated | .passwordRequest | .saslContinue _ | .saslFinal _ | .foreignAuthentication _
  | .keyData .. | .ready _ | .parseComplete | .bindComplete | .closeComplete | .noData
  | .emptyQuery | .portalSuspended | .copyData _ | .copyDone => isTrue trivial

/-- Whether a message can be sent: its parts can be written, and so can the length of its frame. -/
structure WellFormed (utterance : Utterance) : Prop where
  writable : utterance.Writable
  fits : utterance.body.length + 4 < 0x100000000

instance (utterance : Utterance) : Decidable utterance.WellFormed :=
  decidable_of_iff (utterance.Writable ∧ utterance.body.length + 4 < 0x100000000)
    ⟨fun ⟨writable, fits⟩ => ⟨writable, fits⟩, fun ⟨writable, fits⟩ => ⟨writable, fits⟩⟩

/-! ## Reading messages -/

open BodyReader ServerMessage

theorem exhausts_ofBody {utterance : Utterance} (writable : utterance.Writable) :
    Exhausts (ofBody utterance.frame.tag) utterance.body utterance.meaning := by
  cases utterance with
  | authenticated => exact (reads_integer (by decide)).exhausts.bind (exhausts_pure _)
  | passwordRequest => exact (reads_integer (by decide)).exhausts.bind (exhausts_pure _)
  | md5Request salt =>
      have reads : Reads (take 4 .tooShort) salt salt := writable ▸ reads_take salt .tooShort
      exact (reads_integer (by decide)).bind_exhausts (reads.exhausts.bind (exhausts_pure _))
  | saslRequest mechanisms =>
      exact (reads_integer (by decide)).bind_exhausts
        ((exhausts_remaining _).bind (exhausts_pure _))
  | saslContinue data =>
      exact (reads_integer (by decide)).bind_exhausts
        ((exhausts_remaining _).bind (exhausts_pure _))
  | saslFinal data =>
      exact (reads_integer (by decide)).bind_exhausts
        ((exhausts_remaining _).bind (exhausts_pure _))
  | foreignAuthentication request =>
      cases request with
      | gssContinue data =>
          exact (reads_integer (by decide)).bind_exhausts
            ((exhausts_remaining _).bind (exhausts_pure _))
      | _ => exact (reads_integer (by decide)).exhausts.bind (exhausts_pure _)
  | parameterStatus name value =>
      exact (reads_terminated writable.1).bind_exhausts
        ((reads_terminated writable.2).exhausts.bind (exhausts_pure _))
  | keyData process secret =>
      exact (reads_natural_four process.toNat_lt).bind_exhausts
        ((reads_natural_four secret.toNat_lt).exhausts.bind (exhausts_pure _))
  | ready status => exact (reads_natural_one status).exhausts.bind (exhausts_pure _)
  | parseComplete => rfl
  | bindComplete => rfl
  | closeComplete => rfl
  | noData => rfl
  | emptyQuery => rfl
  | portalSuspended => rfl
  | parameterDescription types =>
      exact (reads_natural_two writable).bind_exhausts
        ((exhausts_remaining _).bind (exhausts_pure _))
  | rowDescription columns =>
      exact (reads_natural_two writable.1).bind_exhausts
        ((exhausts_remaining _).bind (exhausts_pure _))
  | dataRow cells =>
      exact (reads_natural_two writable.1).bind_exhausts
        ((exhausts_remaining _).bind (exhausts_pure _))
  | commandComplete tag => exact (reads_terminated writable).exhausts.bind (exhausts_pure _)
  | copyIn format columns =>
      have formats : Exhausts copyFormats (body (.copyIn format columns)) () :=
        (reads_natural_one format).bind_exhausts <| (reads_natural_two writable).bind_exhausts <|
          (exhausts_remaining _).bind (exhausts_pure _)
      exact formats.bind (exhausts_pure _)
  | copyOut format columns =>
      have formats : Exhausts copyFormats (body (.copyOut format columns)) () :=
        (reads_natural_one format).bind_exhausts <| (reads_natural_two writable).bind_exhausts <|
          (exhausts_remaining _).bind (exhausts_pure _)
      exact formats.bind (exhausts_pure _)
  | copyData data => exact (exhausts_remaining data).bind (exhausts_pure _)
  | copyDone => rfl
  | notification process channel payload =>
      exact (reads_natural_four process.toNat_lt).bind_exhausts <|
        (reads_terminated writable.1).bind_exhausts <|
          (reads_terminated writable.2).exhausts.bind (exhausts_pure _)
  | notice fields => exact (exhausts_remaining _).bind (exhausts_pure _)
  | report fields => exact (exhausts_remaining _).bind (exhausts_pure _)

/-- A message is read from the front of a stream, whatever follows it. -/
theorem read_octets {utterance : Utterance} (wellFormed : utterance.WellFormed) (rest : Octets) :
    ServerMessage.read (utterance.octets ++ rest) = .message utterance.meaning rest := by
  have message : ofFrame utterance.frame = .ok utterance.meaning :=
    ofFrame_eq (exhausts_ofBody wellFormed.writable)
  rw [ServerMessage.read, octets, Frame.read_octets wellFormed.fits]
  simp only [message]

end Utterance

/-! ## Reading what was kept as octets -/

open BodyReader

theorem reads_column {column : Column} (zeroFree : 0 ∉ Octets.ofText column.name) :
    Reads BodyReader.column column.octets column.field := by
  refine (reads_terminated zeroFree).bind ?_
  rw [Octets.readText_ofText]
  refine (reads_natural_four column.table.toNat_lt).bind ?_
  refine (reads_natural_two column.number.toNat_lt).bind ?_
  refine (reads_natural_four column.typeId.toNat_lt).bind ?_
  refine (reads_natural_two column.size.toNat_lt).bind ?_
  refine (reads_natural_four column.modifier.toNat_lt).bind ?_
  rw [← List.append_nil (Octets.ofNat16 _)]
  exact (reads_natural_two column.format.toNat_lt).bind (reads_pure _)

theorem describedColumns_octets {columns : List Column}
    (zeroFree : ∀ column ∈ columns, 0 ∉ Octets.ofText column.name) :
    describedColumns columns.length (columns.flatMap Column.octets) =
      .ok (columns.map Column.field) :=
  (exhausts_counted .description Column.octets Column.field fun column member =>
    reads_column (zeroFree column member)).run'_eq

theorem reads_cell {cell : RawCell} (small : ∀ octets ∈ cell, octets.length < 0x80000000) :
    Reads BodyReader.cell (cellOctets cell) cell := by
  cases cell with
  | none =>
      rw [cellOctets, ← List.append_nil (Octets.ofNat32 _)]
      exact (reads_integer (by decide)).bind (reads_pure none)
  | some octets =>
      have short := small octets rfl
      have taken : Reads (do return some (← take octets.length .unterminated)) (octets ++ [])
          (some octets) :=
        (reads_take octets .unterminated).bind (reads_pure (some octets))
      rw [List.append_nil] at taken
      refine (reads_integer (by omega)).bind ?_
      rw [if_pos short, if_neg (by omega)]
      exact taken

theorem rowCells_octets {cells : List RawCell}
    (small : ∀ cell ∈ cells, ∀ octets ∈ cell, octets.length < 0x80000000) :
    rowCells cells.length (cells.flatMap cellOctets) = .ok cells := by
  have exhausts := exhausts_counted .row cellOctets id fun cell member =>
    reads_cell (small cell member)
  rw [rowCells, exhausts.run'_eq, List.map_id]

theorem reportFields_octets {fields : List (UInt8 × Octets)}
    (zeroFree : ∀ field ∈ fields, field.1 ≠ 0 ∧ 0 ∉ field.2) :
    reportFields (fieldOctets fields) = .ok fields := by
  induction fields with
  | nil =>
      rw [fieldOctets, List.flatMap_nil, List.nil_append, reportFields, if_pos rfl]
      rfl
  | cons field others inductionHypothesis =>
      rw [List.forall_mem_cons] at zeroFree
      have first : fieldOctets (field :: others) =
          field.1 :: (field.2 ++ 0 :: fieldOctets others) := by
        simp only [fieldOctets, List.flatMap_cons, List.cons_append, List.append_assoc,
          List.nil_append]
      have found := splitAtZero_append zeroFree.1.2 (fieldOctets others)
      rw [first, reportFields, if_neg zeroFree.1.1]
      split
      next missing => cases found.symm.trans missing
      next value rest split =>
        cases found.symm.trans split
        rw [inductionHypothesis zeroFree.2]
        rfl

theorem readReport_octets {fields : List (UInt8 × Octets)}
    (zeroFree : ∀ field ∈ fields, field.1 ≠ 0 ∧ 0 ∉ field.2) :
    readReport (fieldOctets fields) = .ok (ServerError.ofFields fields) := by
  rw [readReport, reportFields_octets zeroFree]
  rfl

end BankLedger.Postgres
