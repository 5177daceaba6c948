import BankLedger.Postgres.Body

/-!
# Messages of the server

What the frames of the server mean.  Of a message only what a session uses is kept.  Rows,
descriptions, reports and lists of mechanisms are kept as they arrived and read when they are used,
because a fault in one that is not used does not matter.
-/

namespace BankLedger.Postgres

/-- A message of the server. -/
inductive ServerMessage
  | authenticated
  | passwordRequest
  | md5Request (salt : Octets)
  | saslRequest (mechanisms : Octets)
  | saslContinue (data : Octets)
  | saslFinal (data : Octets)
  | otherAuthentication
  | parameterStatus
  | keyData
  | ready
  | parseComplete
  | bindComplete
  | closeComplete
  | noData
  | emptyQuery
  | portalSuspended
  | parameterDescription
  | rowDescription (columns : Nat) (body : Octets)
  | dataRow (cells : Nat) (body : Octets)
  | commandComplete
  | copyIn
  | copyOut
  | copyData
  | copyDone
  | notification
  | notice (fields : Octets)
  | report (fields : Octets)
deriving DecidableEq

/-- What the start of a stream means. -/
inductive Reading
  | incomplete
  | malformed (cause : Malformed)
  | message (message : ServerMessage) (rest : Octets)

namespace ServerMessage

open BodyReader

/-- The request for authentication of a number. -/
def authentication (request : Int) : BodyReader ServerMessage :=
  match request with
  | 0 => return .authenticated
  | 3 => return .passwordRequest
  | 5 => return .md5Request (← take 4 .tooShort)
  | 10 => return .saslRequest (← remaining)
  | 11 => return .saslContinue (← remaining)
  | 12 => return .saslFinal (← remaining)
  | 8 => do
      let _ ← remaining
      return .otherAuthentication
  | 2 | 6 | 7 | 9 => return .otherAuthentication
  | other => throw (.unknownAuthentication other)

/-- The start of a copy: a format, and the formats of the columns. -/
def copyFormats : BodyReader Unit := do
  let _ ← natural 1
  let _ ← natural 2
  let _ ← remaining

/-- The message in a body, by the tag of its frame. -/
def ofBody (tag : UInt8) : BodyReader ServerMessage := do
  match Char.ofNat tag.toNat with
  | 'R' => authentication (← integer)
  | 'S' =>
      let _ ← terminated
      let _ ← terminated
      return .parameterStatus
  | 'K' =>
      let _ ← natural 4
      let _ ← natural 4
      return .keyData
  | 'Z' =>
      let _ ← natural 1
      return .ready
  | '1' => return .parseComplete
  | '2' => return .bindComplete
  | '3' => return .closeComplete
  | 'n' => return .noData
  | 'I' => return .emptyQuery
  | 's' => return .portalSuspended
  | 't' =>
      let _ ← natural 2
      let _ ← remaining
      return .parameterDescription
  | 'T' =>
      let columns ← natural 2
      return .rowDescription columns (← remaining)
  | 'D' =>
      let cells ← natural 2
      return .dataRow cells (← remaining)
  | 'C' =>
      let _ ← terminated
      return .commandComplete
  | 'G' =>
      copyFormats
      return .copyIn
  | 'H' =>
      copyFormats
      return .copyOut
  | 'd' =>
      let _ ← remaining
      return .copyData
  | 'c' => return .copyDone
  | 'A' =>
      let _ ← natural 4
      let _ ← terminated
      let _ ← terminated
      return .notification
  | 'N' => return .notice (← remaining)
  | 'E' => return .report (← remaining)
  | _ => throw (.unknownTag tag)

/-- The message in a frame. -/
def ofFrame (frame : Frame) : Except Malformed ServerMessage :=
  let whole : BodyReader ServerMessage := do
    let message ← ofBody frame.tag
    finished .body
    return message
  whole.run' frame.body

/-- The message that a stream starts with. -/
def read (stream : Octets) : Reading :=
  match Frame.read stream with
  | .incomplete => .incomplete
  | .impossible => .malformed .impossibleLength
  | .whole frame rest =>
      match ofFrame frame with
      | .error cause => .malformed cause
      | .ok message => .message message rest

theorem length_of_read {stream rest : Octets} {message : ServerMessage}
    (found : read stream = .message message rest) : rest.length < stream.length := by
  unfold read at found
  split at found
  · cases found
  · cases found
  · split at found
    · cases found
    · injection found with _ same
      subst same
      exact Frame.length_of_read ‹_›

end ServerMessage

/-- The columns in a description of some columns. -/
def describedColumns (columns : Nat) (body : Octets) : Except Malformed (List Field) :=
  (BodyReader.counted BodyReader.column .description columns).run' body

/-- The cells in a row of some cells. -/
def rowCells (cells : Nat) (body : Octets) : Except Malformed (List RawCell) :=
  (BodyReader.counted BodyReader.cell .row cells).run' body

/-- The report or notice that fields make. -/
def readReport (fields : Octets) : Except Malformed ServerError :=
  (reportFields fields).map ServerError.ofFields

end BankLedger.Postgres
