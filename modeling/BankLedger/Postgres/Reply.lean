import BankLedger.Postgres.ClientMessage
import BankLedger.Postgres.Dialogue

/-!
# Replies to queries

The server replies to a query with messages up to the one that tells it is ready again.  A copy is
never carried out: one to the client is drained, and one from the client is refused.  After a report
the status of the query no longer changes to success.
-/

namespace BankLedger.Postgres

open BankLedger.Database

/-- A reply that is under way. -/
structure Reply where
  status : QueryStatus
  fields : List Field
  rows : Array (List RawCell)
  report : Option ServerError
  /-- The columns were described. -/
  described : Bool
  /-- A copy was started. -/
  copying : Bool

namespace Reply

/-- A reply before the first message of the server. -/
def initial : Reply :=
  ⟨.commandOk, [], #[], none, false, false⟩

/-- The result of a reply that has ended. -/
def result (reply : Reply) : QueryResult :=
  ⟨reply.status, reply.fields, reply.rows.toList, reply.report⟩

/-- Goes on with what was read from a message. -/
def reading {Part : Type} (read : Except Malformed Part) (next : Part → Turn Reply QueryResult) :
    Turn Reply QueryResult :=
  match read with
  | .error cause => .fail (.transport cause.message)
  | .ok part => next part

/-- The reply after the query was carried out. -/
def complete (reply : Reply) : Reply :=
  if reply.copying || reply.report.isSome then reply
  else { reply with status := if reply.described then .tuplesOk else .commandOk }

/-- The reply after a report of the server. -/
def reported (report : ServerError) (reply : Reply) : Reply :=
  let status := if reply.copying then reply.status
    else if report.isError then .fatalError else .nonfatalError
  { reply with status := status, report := some report }

/-- Refuses a copy from the client.  The request to answer that came with the query was not heard,
so it is made again. -/
def refuseCopy (reply : Reply) : Turn Reply QueryResult :=
  match ClientMessage.encodeAll [.copyFail "COPY is not supported", .sync] with
  | .error failure => .fail failure
  | .ok octets => .proceed { reply with status := .copyIn, copying := true } octets

/-- The dialogue of a query. -/
def dialogue : Dialogue Reply QueryResult := fun reply message =>
  match message with
  | .parseComplete | .bindComplete | .noData | .parameterStatus | .notification | .copyData
  | .copyDone => .proceed reply []
  | .rowDescription columns body =>
      reading (describedColumns columns body) fun fields =>
        .proceed { reply with fields := fields, described := true } []
  | .dataRow cells body =>
      reading (rowCells cells body) fun row =>
        .proceed { reply with rows := reply.rows.push row } []
  | .commandComplete => .proceed reply.complete []
  | .emptyQuery => .proceed { reply with status := .emptyQuery } []
  | .copyIn => reply.refuseCopy
  | .copyOut => .proceed { reply with status := .copyOut, copying := true } []
  | .report fields => reading (readReport fields) fun report => .proceed (reply.reported report) []
  | .notice fields => reading (readReport fields) fun _ => .proceed reply []
  | .ready => .finish reply.result
  | _ => .proceed { reply with status := .badResponse } []

end Reply

end BankLedger.Postgres
