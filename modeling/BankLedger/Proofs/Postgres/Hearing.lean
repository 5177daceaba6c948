import Mathlib.Algebra.BigOperators.Group.List.Basic
import BankLedger.Postgres.ScriptedServer
import BankLedger.Proofs.Execution
import BankLedger.Proofs.Postgres.Utterance

/-!
# Hearing a stream

A stream arrives in pieces, and where it is cut does not matter: what a dialogue hears in some
octets and then in more is what it hears in all of them at once.  So a conversation over a line that
feeds some pieces ends as the dialogue ends that hears them together, and what follows the end stays
to be heard.
-/

namespace BankLedger.Postgres

open BankLedger.Database

/-! ## Reading from a longer stream -/

namespace Frame

theorem read_append_of_whole {stream rest : Octets} {frame : Frame}
    (whole : read stream = .whole frame rest) (more : Octets) :
    read (stream ++ more) = .whole frame (rest ++ more) := by
  unfold read at whole
  split at whole
  next tag a b c d stream =>
    simp only [split] at whole
    split at whole
    next => cases whole
    next possible =>
      split at whole
      next => cases whole
      next enough =>
        cases whole
        change split tag _ (stream ++ more) = _
        have within : Octets.toNat [a, b, c, d] - 4 ≤ stream.length := by
          rw [List.length_take] at enough
          omega
        rw [split, if_neg possible, List.take_append_of_le_length within,
          List.drop_append_of_le_length within, if_neg enough]
  next => cases whole

theorem read_append_of_impossible {stream : Octets} (impossible : read stream = .impossible)
    (more : Octets) : read (stream ++ more) = .impossible := by
  unfold read at impossible
  split at impossible
  next tag a b c d stream =>
    simp only [split] at impossible
    split at impossible
    next short =>
      change split tag _ (stream ++ more) = _
      rw [split, if_pos short]
    next => split at impossible <;> cases impossible
  next => cases impossible

end Frame

namespace ServerMessage

theorem read_append_of_message {stream rest : Octets} {message : ServerMessage}
    (found : read stream = .message message rest) (more : Octets) :
    read (stream ++ more) = .message message (rest ++ more) := by
  unfold read at found
  split at found
  next => cases found
  next => cases found
  next frame after whole =>
    split at found
    next => cases found
    next message known =>
      cases found
      rw [read, Frame.read_append_of_whole whole]
      simp only [known]

theorem read_append_of_malformed {stream : Octets} {cause : Malformed}
    (found : read stream = .malformed cause) (more : Octets) :
    read (stream ++ more) = .malformed cause := by
  unfold read at found
  split at found
  next => cases found
  next impossible =>
    cases found
    rw [read, Frame.read_append_of_impossible impossible]
  next frame after whole =>
    split at found
    next cause unknown =>
      cases found
      rw [read, Frame.read_append_of_whole whole]
      simp only [unknown]
    next => cases found

end ServerMessage

/-! ## Hearing more -/

variable {State Result : Type}

namespace Dialogue

variable (dialogue : Dialogue State Result)

section

variable (state : State)

theorem hear_of_incomplete {stream : Octets}
    (incomplete : ServerMessage.read stream = .incomplete) :
    dialogue.hear state stream = ⟨[], .listening state, stream⟩ := by
  rw [hear]
  split <;> simp_all

theorem hear_of_malformed {stream : Octets} {cause : Malformed}
    (malformed : ServerMessage.read stream = .malformed cause) :
    dialogue.hear state stream = ⟨[], .ended (.error (.transport cause.message)), stream⟩ := by
  rw [hear]
  split <;> simp_all

theorem hear_of_message {stream rest : Octets} {message : ServerMessage}
    (found : ServerMessage.read stream = .message message rest) :
    dialogue.hear state stream =
      match dialogue state message with
      | .proceed state reply =>
          { dialogue.hear state rest with sent := reply ++ (dialogue.hear state rest).sent }
      | .finish result => ⟨[], .ended (.ok result), rest⟩
      | .fail failure => ⟨[], .ended (.error failure), rest⟩ := by
  rw [hear]
  split
  next incomplete => cases found.symm.trans incomplete
  next malformed => cases found.symm.trans malformed
  next other after same =>
    cases found.symm.trans same
    cases dialogue state message <;> rfl

end

/-- What a hearing leads to when more arrives. -/
def resume (hearing : Hearing State Result) (more : Octets) : Hearing State Result :=
  match hearing.stance with
  | .listening state =>
      let next := dialogue.hear state (hearing.unread ++ more)
      { next with sent := hearing.sent ++ next.sent }
  | .ended _ => { hearing with unread := hearing.unread ++ more }

/-- Where a stream is cut does not matter. -/
theorem hear_append (state : State) (stream more : Octets) :
    dialogue.hear state (stream ++ more) = dialogue.resume (dialogue.hear state stream) more := by
  cases found : ServerMessage.read stream with
  | incomplete =>
      rw [dialogue.hear_of_incomplete state found]
      rfl
  | malformed cause =>
      rw [dialogue.hear_of_malformed state found, dialogue.hear_of_malformed state
        (ServerMessage.read_append_of_malformed found more)]
      rfl
  | message message rest =>
      rw [dialogue.hear_of_message state found, dialogue.hear_of_message state
        (ServerMessage.read_append_of_message found more)]
      cases dialogue state message with
      | proceed state reply =>
          have shorter := ServerMessage.length_of_read found
          simp only [hear_append state rest more, resume]
          split <;> simp only [List.append_assoc]
      | finish result => rfl
      | fail failure => rfl
termination_by stream.length

end Dialogue

/-! ## Conversations -/

theorem length_le_length_flatten {pieces : List Octets} (full : ∀ piece ∈ pieces, piece ≠ []) :
    pieces.length ≤ pieces.flatten.length := by
  have lengths : ∀ length ∈ pieces.map List.length, 1 ≤ length := by
    intro length member
    obtain ⟨piece, held, rfl⟩ := List.mem_map.mp member
    exact List.length_pos_iff.mpr (full piece held)
  rw [List.length_flatten, ← List.length_map List.length]
  exact List.length_le_sum_of_one_le _ lengths

/-- Of pieces that hold a message and more, at most as many hold the message as it has octets. -/
theorem exists_pieces {unread message later : Octets} {pending : List Octets}
    (full : ∀ piece ∈ pending, piece ≠ [])
    (stream : unread ++ pending.flatten = message ++ later) :
    ∃ pieces others rest, pending = pieces ++ others ∧ pieces.length ≤ message.length ∧
      unread ++ pieces.flatten = message ++ rest ∧ rest ++ others.flatten = later := by
  let pieces := pending.take message.length
  have split : pieces ++ pending.drop message.length = pending := List.take_append_drop ..
  have whole : unread ++ pieces.flatten ++ (pending.drop message.length).flatten =
      message ++ later := by
    rw [List.append_assoc, ← List.flatten_append, split, stream]
  have long : message.length ≤ (unread ++ pieces.flatten).length := by
    rw [List.length_append]
    rcases Nat.le_total pending.length message.length with few | many
    · have all : pieces = pending := List.take_of_length_le few
      have lengths := congrArg List.length stream
      rw [List.length_append, List.length_append] at lengths
      rw [all]
      omega
    · have enough : pieces.length = message.length := List.length_take_of_le many
      have counted : pieces.length ≤ pieces.flatten.length :=
        length_le_length_flatten fun piece member => full piece (List.mem_of_mem_take member)
      omega
  have front : message <+: unread ++ pieces.flatten :=
    List.prefix_of_prefix_length_le ⟨later, rfl⟩ ⟨_, whole⟩ long
  obtain ⟨rest, held⟩ := front
  refine ⟨pieces, pending.drop message.length, rest, split.symm, List.length_take_le .., held.symm,
    ?_⟩
  rw [← held, List.append_assoc, List.append_cancel_left_eq] at whole
  exact whole

variable {m : Type → Type} [Monad m] {World Line : Type}

/-- A line over which a server has some pieces to send, in whatever way it got them.  Receiving
takes the first of them, and sending succeeds and leaves them as they are. -/
structure Network.Feeds (network : Network m Line) (execution : Execution m World) (line : Line)
    (pending : World → List Octets) : Prop where
  receive : ∀ {world piece pieces}, pending world = piece :: pieces →
    (execution.run (network.receive line) world).1 = .ok piece ∧
      pending (execution.run (network.receive line) world).2 = pieces
  send : ∀ octets world,
    (execution.run (network.send line octets) world).1 = .ok () ∧
      pending (execution.run (network.send line octets) world).2 = pending world

/-- A view of the world that shows all that was sent over a line, in order.  Nothing is known of it
once something could not be sent. -/
structure Network.Logs (network : Network m Line) (execution : Execution m World) (line : Line)
    (log : World → Octets) : Prop where
  receive : ∀ world, log (execution.run (network.receive line) world).2 = log world
  send : ∀ {octets world}, (execution.run (network.send line octets) world).1 = .ok () →
    log (execution.run (network.send line octets) world).2 = log world ++ octets

/-- Between two worlds some octets were sent over a line and nothing else, as every log shows. -/
def Network.Sends (network : Network m Line) (execution : Execution m World) (line : Line)
    (before : World) (octets : Octets) (after : World) : Prop :=
  ∀ log, network.Logs execution line log → log after = log before ++ octets

section

variable {network : Network m Line} {execution : Execution m World} {line : Line}

theorem Network.Sends.trans {before between after : World} {first second : Octets}
    (sends : network.Sends execution line before first between)
    (sendsMore : network.Sends execution line between second after) :
    network.Sends execution line before (first ++ second) after := by
  intro log logs
  rw [sendsMore log logs, sends log logs, List.append_assoc]

theorem Network.sends_send {octets : Octets} {world : World}
    (sent : (execution.run (network.send line octets) world).1 = .ok ()) :
    network.Sends execution line world octets
      (execution.run (network.send line octets) world).2 := by
  intro log logs
  exact logs.send sent

theorem Network.sends_say {octets : Octets} {world : World}
    (said : (execution.run (network.say line octets) world).1 = .ok ()) :
    network.Sends execution line world octets
      (execution.run (network.say line octets) world).2 := by
  cases octets with
  | nil =>
      intro log logs
      rw [say, List.isEmpty_nil, if_pos rfl, Execution.run_pure, List.append_nil]
  | cons octet others => exact sends_send said

theorem Network.sends_receive (world : World) :
    network.Sends execution line world [] (execution.run (network.receive line) world).2 := by
  intro log logs
  rw [logs.receive, List.append_nil]

end

/-- A conversation says what it has to say, and then ends or receives. -/
theorem Network.run_converse_succ (network : Network m Line) (execution : Execution m World)
    (line : Line) (dialogue : Dialogue State Result) (patience : Nat)
    (state : State) (unread : Octets) (world : World) :
    execution.run (network.converse line dialogue (patience + 1) state unread) world =
      let hearing := dialogue.hear state unread
      let said := execution.run (network.say line hearing.sent) world
      match said.1 with
      | .error reason => ((.error (.transport reason), hearing.unread), said.2)
      | .ok () =>
          match hearing.stance with
          | .ended outcome => ((outcome, hearing.unread), said.2)
          | .listening next =>
              let received := execution.run (network.receive line) said.2
              match received.1 with
              | .error reason => ((.error (.transport reason), hearing.unread), received.2)
              | .ok [] => ((.error Dialogue.streamEnded, hearing.unread), received.2)
              | .ok octets =>
                  execution.run
                    (network.converse line dialogue patience next (hearing.unread ++ octets))
                    received.2 := by
  rw [converse]
  generalize dialogue.hear state unread = hearing
  obtain ⟨sent, stance, left⟩ := hearing
  simp only [Execution.run_bind]
  cases (execution.run (network.say line sent) world).1 with
  | error reason => exact execution.run_pure ..
  | ok said =>
      cases stance with
      | ended outcome => exact execution.run_pure ..
      | listening next =>
          simp only [Execution.run_bind]
          rcases (execution.run (network.receive line) _).1 with reason | _ | _
          · exact execution.run_pure ..
          · exact execution.run_pure ..
          · rfl

/-- A dialogue that is opened with some octets is led if these can be sent. -/
theorem Network.run_ask (network : Network m Line) (execution : Execution m World) (line : Line)
    (octets : Octets) (dialogue : Dialogue State Result) (state : State) (unread : Octets)
    (world : World) :
    execution.run (network.ask line octets dialogue state unread) world =
      let sent := execution.run (network.send line octets) world
      match sent.1 with
      | .error reason => ((.error (.transport reason), unread), sent.2)
      | .ok () =>
          execution.run (network.converse line dialogue network.patience state unread) sent.2 := by
  simp only [ask, Execution.run_bind]
  cases (execution.run (network.send line octets) world).1 with
  | error reason => exact execution.run_pure ..
  | ok sent => rfl

namespace Network.Feeds

variable {network : Network m Line} {execution : Execution m World} {line : Line}
variable {pending : World → List Octets} (feeds : network.Feeds execution line pending)

include feeds

theorem say (octets : Octets) (world : World) :
    (execution.run (network.say line octets) world).1 = .ok () ∧
      pending (execution.run (network.say line octets) world).2 = pending world := by
  cases octets with
  | nil =>
      rw [Network.say, List.isEmpty_nil, if_pos rfl, Execution.run_pure]
      exact ⟨rfl, rfl⟩
  | cons octet others => exact feeds.send ..

theorem run_converse_of_ended {dialogue : Dialogue State Result} {state : State}
    {unread sent left : Octets} {outcome : Except ConnectionFailure Result}
    (heard : dialogue.hear state unread = ⟨sent, .ended outcome, left⟩) (patience : Nat)
    (world : World) :
    ∃ after, execution.run (network.converse line dialogue (patience + 1) state unread) world =
        ((outcome, left), after) ∧ pending after = pending world ∧
      network.Sends execution line world sent after := by
  obtain ⟨said, same⟩ := feeds.say sent world
  refine ⟨_, ?_, same, sends_say said⟩
  rw [run_converse_succ, heard]
  simp only [said]

theorem run_converse_of_listening {dialogue : Dialogue State Result} {state next : State}
    {unread sent left piece : Octets} {pieces : List Octets}
    (heard : dialogue.hear state unread = ⟨sent, .listening next, left⟩) (full : piece ≠ [])
    (patience : Nat) {world : World} (pending_eq : pending world = piece :: pieces) :
    ∃ after, execution.run (network.converse line dialogue (patience + 1) state unread) world =
        execution.run (network.converse line dialogue patience next (left ++ piece)) after ∧
      pending after = pieces ∧ network.Sends execution line world sent after := by
  obtain ⟨said, same⟩ := feeds.say sent world
  obtain ⟨received, after⟩ := feeds.receive (same.trans pending_eq)
  have sends := (sends_say said).trans (sends_receive _)
  rw [List.append_nil] at sends
  refine ⟨_, ?_, after, sends⟩
  cases piece with
  | nil => exact absurd rfl full
  | cons octet others =>
      rw [run_converse_succ, heard]
      simp only [said, received]

/-- A conversation over a line that feeds enough pieces ends as the dialogue ends that hears them
all at once, and sends what that dialogue sends.  It takes as many pieces as it needs. -/
theorem run_converse (dialogue : Dialogue State Result) {pieces others : List Octets}
    {state : State} {unread sent left : Octets} {outcome : Except ConnectionFailure Result}
    {world : World} {patience : Nat}
    (heard : dialogue.hear state (unread ++ pieces.flatten) = ⟨sent, .ended outcome, left⟩)
    (pending_eq : pending world = pieces ++ others) (full : ∀ piece ∈ pieces, piece ≠ [])
    (patient : pieces.length < patience) :
    ∃ rest kept after,
      execution.run (network.converse line dialogue patience state unread) world =
        ((outcome, rest), after) ∧
      pending after = kept ++ others ∧ kept <:+ pieces ∧ rest ++ kept.flatten = left ∧
      network.Sends execution line world sent after := by
  induction pieces generalizing state unread sent world patience with
  | nil =>
      obtain ⟨patience, rfl⟩ := Nat.exists_eq_add_one_of_ne_zero (Nat.ne_zero_of_lt patient)
      rw [List.flatten_nil, List.append_nil] at heard
      obtain ⟨after, ended, same, sends⟩ := feeds.run_converse_of_ended heard patience world
      exact ⟨left, [], after, ended, same.trans pending_eq, List.suffix_refl _,
        List.append_nil left, sends⟩
  | cons piece pieces inductionHypothesis =>
      obtain ⟨patience, rfl⟩ := Nat.exists_eq_add_one_of_ne_zero (Nat.ne_zero_of_lt patient)
      rw [List.forall_mem_cons] at full
      rw [dialogue.hear_append] at heard
      cases hearing : dialogue.hear state unread with
      | mk said stance unheard =>
        rw [hearing] at heard
        cases stance with
        | ended known =>
            cases heard
            obtain ⟨after, ended, same, sends⟩ :=
              feeds.run_converse_of_ended hearing patience world
            exact ⟨_, piece :: pieces, after, ended, same.trans pending_eq, List.suffix_refl _,
              rfl, sends⟩
        | listening next =>
            obtain ⟨between, onward, fed, sends⟩ :=
              feeds.run_converse_of_listening hearing full.1 patience pending_eq
            simp only [Dialogue.resume, List.flatten_cons, ← List.append_assoc] at heard
            injection heard with whole stance unread
            have later : dialogue.hear next ((unheard ++ piece) ++ pieces.flatten) =
                ⟨(dialogue.hear next ((unheard ++ piece) ++ pieces.flatten)).sent,
                  .ended outcome, left⟩ := by
              rw [← stance, ← unread]
            obtain ⟨rest, kept, after, ended, pending_after, suffix, rest_eq, sendsMore⟩ :=
              inductionHypothesis later fed full.2 (Nat.lt_of_succ_lt_succ patient)
            refine ⟨rest, kept, after, onward.trans ended, pending_after,
              suffix.trans (List.suffix_cons ..), rest_eq, ?_⟩
            rw [← whole]
            exact sends.trans sendsMore

/-- The same of a dialogue that is opened with some octets. -/
theorem run_ask (dialogue : Dialogue State Result) {pieces others : List Octets} {state : State}
    {unread octets sent left : Octets} {outcome : Except ConnectionFailure Result} {world : World}
    (heard : dialogue.hear state (unread ++ pieces.flatten) = ⟨sent, .ended outcome, left⟩)
    (pending_eq : pending world = pieces ++ others) (full : ∀ piece ∈ pieces, piece ≠ [])
    (patient : pieces.length < network.patience) :
    ∃ rest kept after,
      execution.run (network.ask line octets dialogue state unread) world =
        ((outcome, rest), after) ∧
      pending after = kept ++ others ∧ kept <:+ pieces ∧ rest ++ kept.flatten = left ∧
      network.Sends execution line world (octets ++ sent) after := by
  obtain ⟨asks, same⟩ := feeds.send octets world
  obtain ⟨rest, kept, after, ended, pending_after, suffix, rest_eq, sends⟩ :=
    feeds.run_converse dialogue heard (same.trans pending_eq) full patient
  refine ⟨rest, kept, after, ?_, pending_after, suffix, rest_eq, (sends_send asks).trans sends⟩
  rw [Network.run_ask]
  simp only [asks, ended]

end Network.Feeds

/-! ## Scripted servers -/

/-- The pieces that a script sends before the first turn of an exchange. -/
def plainPieces : List ServerTurn → List Octets
  | .send octets :: turns => octets :: plainPieces turns
  | _ => []

theorem plainPieces_map_send (pieces : List Octets) :
    plainPieces (pieces.map .send) = pieces := by
  induction pieces with
  | nil => rfl
  | cons piece others inductionHypothesis =>
      rw [List.map_cons, plainPieces, inductionHypothesis]

/-- The pieces that a scripted server has to send. -/
def ScriptedNetwork.pending (line : Nat) (world : ScriptedNetwork) : List Octets :=
  (world.servers[line]?.map fun server => plainPieces server.turns).getD []

/-- What a client receives from a server whose next turn is to send some octets. -/
theorem ScriptedNetwork.run_receive (password : String) (line : Nat) {world : ScriptedNetwork}
    {server : ScriptedServer} {octets : Octets} {turns : List ServerTurn}
    (found : world.servers[line]? = some server) (next : server.turns = .send octets :: turns) :
    (receive password line).run world =
      (.ok octets, { world with
        servers := world.servers.setIfInBounds line { server with turns := turns } }) := by
  simp only [receive, modifyGet, MonadStateOf.modifyGet, StateT.modifyGet, StateT.run, found,
    ScriptedServer.nextTurn, next, ScriptedServer.takeTurn]
  rfl

/-- Scripted servers feed their scripts. -/
theorem ScriptedNetwork.feeds (password : String) (line : Nat) :
    (network password).Feeds .direct line (pending line) where
  receive := by
    intro world piece pieces pending_eq
    rw [pending] at pending_eq
    cases found : world.servers[line]? with
    | none =>
        rw [found] at pending_eq
        cases pending_eq
    | some server =>
        rw [found] at pending_eq
        change plainPieces server.turns = piece :: pieces at pending_eq
        cases next : server.turns with
        | nil =>
            rw [next] at pending_eq
            cases pending_eq
        | cons turn turns =>
            rw [next] at pending_eq
            cases turn with
            | send octets =>
                cases pending_eq
                have listed := (Array.getElem?_eq_some_iff.mp found).1
                change ((receive password line).run world).1 = _ ∧
                  pending line ((receive password line).run world).2 = _
                rw [run_receive password line found next, pending,
                  Array.getElem?_setIfInBounds_self_of_lt listed]
                exact ⟨rfl, rfl⟩
            | continueExchange template => cases pending_eq
            | finishExchange template => cases pending_eq
  send := by
    intro octets world
    refine ⟨rfl, ?_⟩
    change pending line { world with servers := world.servers.modify line _ } = _
    rw [pending, pending, Array.getElem?_modify, if_pos rfl, Option.map_map]
    rfl

end BankLedger.Postgres
