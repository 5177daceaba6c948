import BankLedger.Proofs.Postgres.Answer

/-!
# Rows

The answer to a query for rows describes the columns, brings the rows and says that it is complete.
Between these messages the server may speak of other things at any time.  Such messages change
nothing, so that the reply depends on the others and their order alone.
-/

namespace BankLedger.Postgres

open BankLedger.Sql

namespace Reply

theorem heed_of_asynchronous {utterance : Utterance}
    (asynchronous : utterance.isAsynchronous = true) (reply : Reply) :
    reply.heed utterance = reply := by
  cases utterance <;> first | rfl | cases asynchronous

/-- Messages that answer nothing can be left out. -/
theorem foldl_heed_filter (said : List Utterance) (reply : Reply) :
    said.foldl heed reply = (said.filter (!·.isAsynchronous)).foldl heed reply := by
  induction said generalizing reply with
  | nil => rfl
  | cons utterance others inductionHypothesis =>
      rw [List.foldl_cons, inductionHypothesis, List.filter_cons]
      cases asynchronous : utterance.isAsynchronous with
      | false => rfl
      | true => rw [heed_of_asynchronous asynchronous]; rfl

theorem foldl_heed_dataRows (rows : List (List RawCell)) (reply : Reply) :
    (rows.map Utterance.dataRow).foldl heed reply =
      { reply with rows := reply.rows ++ rows.toArray } := by
  induction rows generalizing reply with
  | nil => simp only [List.map_nil, List.foldl_nil, Array.append_empty]
  | cons row others inductionHypothesis =>
      have pushed : reply.rows.push row ++ others.toArray =
          reply.rows ++ (row :: others).toArray := by
        rw [Array.push_eq_append, Array.append_assoc, ← List.toArray_cons]
      rw [List.map_cons, List.foldl_cons, inductionHypothesis]
      simp only [heed, pushed]

/-- The messages of an answer to a query for rows, without those that answer nothing. -/
def rowMessages (columns : List Column) (rows : List (List RawCell)) (tag : Octets) :
    List Utterance :=
  [.parseComplete, .bindComplete, .rowDescription columns] ++ rows.map .dataRow ++
    [.commandComplete tag]

theorem result_rowMessages (columns : List Column) (rows : List (List RawCell)) (tag : Octets) :
    ((rowMessages columns rows tag).foldl heed initial).result =
      ⟨.tuplesOk, columns.map Column.field, rows, none⟩ := by
  rw [rowMessages, List.foldl_append, List.foldl_append, foldl_heed_dataRows]
  simp [heed, initial, complete, result]

theorem isReady_of_filter {said : List Utterance} {columns : List Column}
    {rows : List (List RawCell)} {tag : Octets}
    (order : said.filter (!·.isAsynchronous) = rowMessages columns rows tag) :
    ∀ utterance ∈ said, utterance.isReady = false := by
  intro utterance member
  cases utterance with
  | ready status =>
      have kept : Utterance.ready status ∈ said.filter (!·.isAsynchronous) :=
        List.mem_filter.mpr ⟨member, rfl⟩
      rw [order, rowMessages] at kept
      simp at kept
  | _ => rfl

end Reply

namespace Session

variable {m : Type → Type} [Monad m] {World Line : Type}
variable {network : Network m Line} {execution : Execution m World} {session : Session Line}
variable {pending : World → List Octets}

/-- A query returns the rows that were sent.  Let a healthy session put a query that can be sent,
and let the server answer by describing some columns, bringing some rows and ending, with messages
that answer nothing wherever it likes, and with the octets cut into pieces however they come, as
long as the network has patience for them.  Then the query returns these columns and these rows in
their order, with every cell as it was sent.  The session stays healthy, and what it has not read
yet is what follows the answer. -/
theorem query_returns_the_rows_that_were_sent
    (feeds : network.Feeds execution session.line pending) (healthy : session.broken = false)
    {text : String} {parameters : List WireText} {octets : Octets}
    (encodes : ClientMessage.encodeAll (ClientMessage.ofQuery text parameters) = .ok octets)
    {columns : List Column} {rows : List (List RawCell)} {tag : Octets} {said : List Utterance}
    (order : said.filter (!·.isAsynchronous) =
      [.parseComplete, .bindComplete, .rowDescription columns] ++ rows.map .dataRow ++
        [.commandComplete tag])
    (wellFormed : ∀ utterance ∈ said, utterance.WellFormed) {status : UInt8} {later : Octets}
    {world : World} (full : ∀ piece ∈ pending world, piece ≠ [])
    (stream : session.unread ++ (pending world).flatten = Utterance.answer said status ++ later)
    (patient : (Utterance.answer said status).length < network.patience) :
    ∃ unread after,
      execution.run (session.query network text parameters) world =
        ((.ok ⟨.tuplesOk, columns.map Column.field, rows, none⟩,
          { session with unread := unread, broken := false }), after) ∧
      unread ++ (pending after).flatten = later ∧ pending after <:+ pending world := by
  obtain ⟨unread, after, answered, follows, kept⟩ :=
    run_query_of_answer feeds healthy encodes wellFormed (Reply.isReady_of_filter order) full stream
      patient
  refine ⟨unread, after, ?_, follows, kept⟩
  have reply := Reply.result_rowMessages columns rows tag
  rw [Reply.rowMessages, ← order, ← Reply.foldl_heed_filter] at reply
  rw [answered, reply, ← healthy]

/-- Two rows of two columns arrive in two pieces, of which the first ends within a header, and the
server has notices to give before and between them. -/
theorem query_returns_the_rows_that_were_sent_amid_notices :
    let columns : List Column := [⟨"id", 0, 0, 20, 8, 0, 0⟩, ⟨"name", 0, 0, 25, 0, 0, 0⟩]
    let rows : List (List RawCell) := [[some [49], none], [some [50], some [0, 255]]]
    let said : List Utterance :=
      [.parameterStatus [65] [66], .parseComplete, .bindComplete, .rowDescription columns,
        .dataRow [some [49], none], .notice [(77, [104, 105])], .dataRow [some [50], some [0, 255]],
        .notification 7 [97] [], .commandComplete [83]]
    let answer := Utterance.answer said 73
    let network := ScriptedNetwork.network ""
    let session : Session Nat := ⟨0, [], false⟩
    let world : ScriptedNetwork :=
      ⟨#[.ofScript [.send (answer.take 8), .send (answer.drop 8)]], []⟩
    ∃ unread after,
      Execution.direct.run (session.query network "SELECT" []) world =
        ((.ok ⟨.tuplesOk, [⟨"id", 20⟩, ⟨"name", 25⟩], rows, none⟩,
          { session with unread := unread, broken := false }), after) ∧
      unread ++ (ScriptedNetwork.pending 0 after).flatten = [] := by
  intro columns rows said answer network session world
  have feeds : network.Feeds .direct session.line (ScriptedNetwork.pending 0) :=
    ScriptedNetwork.feeds "" 0
  obtain ⟨octets, encodes⟩ : ∃ octets,
      ClientMessage.encodeAll (ClientMessage.ofQuery "SELECT" []) = .ok octets := ⟨_, rfl⟩
  have order : said.filter (!·.isAsynchronous) =
      [.parseComplete, .bindComplete, .rowDescription columns] ++ rows.map .dataRow ++
        [.commandComplete [83]] := rfl
  have wellFormed : ∀ utterance ∈ said, utterance.WellFormed := by decide
  have full : ∀ piece ∈ ScriptedNetwork.pending 0 world, piece ≠ [] := by decide
  have stream : session.unread ++ (ScriptedNetwork.pending 0 world).flatten = answer ++ [] := by
    change answer.take 8 ++ (answer.drop 8 ++ []) = _
    rw [List.append_nil, List.append_nil, List.take_append_drop]
  have patient : answer.length < network.patience := by decide +kernel
  obtain ⟨unread, after, returned, follows, _⟩ :=
    query_returns_the_rows_that_were_sent feeds rfl encodes order wellFormed full stream patient
  exact ⟨unread, after, returned, follows⟩

end Session

end BankLedger.Postgres
