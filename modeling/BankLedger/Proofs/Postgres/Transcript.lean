import BankLedger.Proofs.Postgres.Overhearing

/-!
# Transcripts

All that goes over a line can be put on record, beside the world and in the order in which it went,
without any change in what a session does.  The transcript of a conversation shows what the client
sent: nothing but what the dialogue answered to the messages that the transcript shows as received.
-/

namespace BankLedger.Postgres

open BankLedger.Database BankLedger.Sql

/-- Some octets that went over a line.  What is sent is what the client gives to the line; of this
a line that fails may have carried only the first. -/
inductive Transmission
  | sent (octets : Octets)
  | received (octets : Octets)
deriving DecidableEq

/-- What went over the lines of a network, in order. -/
abbrev Transcript := List Transmission

namespace Transcript

/-- All octets that a client sent. -/
def sent : Transcript → Octets
  | [] => []
  | .sent octets :: others => octets ++ sent others
  | .received _ :: others => sent others

/-- All octets that a client received. -/
def received : Transcript → Octets
  | [] => []
  | .sent _ :: others => received others
  | .received octets :: others => octets ++ received others

/-- What is put on record of octets that are sent if there are any. -/
def ofSpoken (octets : Octets) : Transcript :=
  if octets.isEmpty then [] else [.sent octets]

theorem sent_append (first second : Transcript) :
    (first ++ second).sent = first.sent ++ second.sent := by
  induction first with
  | nil => rfl
  | cons transmission others inductionHypothesis =>
      cases transmission <;>
        simp only [List.cons_append, sent, inductionHypothesis, List.append_assoc]

theorem received_append (first second : Transcript) :
    (first ++ second).received = first.received ++ second.received := by
  induction first with
  | nil => rfl
  | cons transmission others inductionHypothesis =>
      cases transmission <;>
        simp only [List.cons_append, received, inductionHypothesis, List.append_assoc]

theorem sent_ofSpoken (octets : Octets) : (ofSpoken octets).sent = octets := by
  cases octets with
  | nil => rfl
  | cons octet others => exact List.append_nil _

theorem received_ofSpoken (octets : Octets) : (ofSpoken octets).received = [] := by
  cases octets <;> rfl

theorem sent_received (octets : Octets) : sent [.received octets] = [] := rfl

theorem received_received (octets : Octets) : received [.received octets] = octets :=
  List.append_nil octets

end Transcript

/-! ## What a dialogue says -/

section

variable {State Result : Type} (dialogue : Dialogue State Result)

theorem Dialogue.sent_hear_append_of_listening {state next : State} {stream said left : Octets}
    (heard : dialogue.hear state stream = ⟨said, .listening next, left⟩) (more : Octets) :
    (dialogue.hear state (stream ++ more)).sent =
      said ++ (dialogue.hear next (left ++ more)).sent := by
  rw [dialogue.hear_append, heard, resume]

namespace Transcript

/-- All that is sent is what a dialogue sends that hears what was unread and then what is received,
or the first of it.  A client without patience does not even hear what was unread. -/
def Obeys (state : State) (unread : Octets) (transcript : Transcript) : Prop :=
  transcript = [] ∨ ∃ heard, heard <+: transcript.received ∧
    transcript.sent = (dialogue.hear state (unread ++ heard)).sent

variable {dialogue} {state : State} {unread said left : Octets}

theorem obeys_spoken {stance : Stance State Result}
    (heard : dialogue.hear state unread = ⟨said, stance, left⟩) {rest : Transcript}
    (silent : rest.sent = []) : Obeys dialogue state unread (ofSpoken said ++ rest) := by
  refine .inr ⟨[], List.nil_prefix, ?_⟩
  rw [sent_append, sent_ofSpoken, silent, List.append_nil, List.append_nil, heard]

theorem obeys_spoken_alone {stance : Stance State Result}
    (heard : dialogue.hear state unread = ⟨said, stance, left⟩) :
    Obeys dialogue state unread (ofSpoken said) := by
  rw [← List.append_nil (ofSpoken said)]
  exact obeys_spoken heard rfl

theorem Obeys.spoken_received {next : State}
    (heard : dialogue.hear state unread = ⟨said, .listening next, left⟩) {piece : Octets}
    {more : Transcript} (obeys : Obeys dialogue next (left ++ piece) more) :
    Obeys dialogue state unread (ofSpoken said ++ ([.received piece] ++ more)) := by
  rcases obeys with rfl | ⟨others, front, sends⟩
  · exact obeys_spoken heard rfl
  · refine .inr ⟨piece ++ others, ?_, ?_⟩
    · rw [received_append, received_append, received_ofSpoken, received_received]
      exact (List.prefix_append_right_inj piece).mpr front
    · rw [sent_append, sent_append, sent_ofSpoken, sent_received, List.nil_append, sends,
        dialogue.sent_hear_append_of_listening heard, List.append_assoc]

end Transcript

end

variable {m : Type → Type} [Monad m] {World Line : Type}

/-- The same network, with a transcript. -/
def Network.transcribing (network : Network m Line) : Network (StateT Transcript m) Line where
  dial credentials := liftM (network.dial credentials)
  send line octets := do
    modify (· ++ [.sent octets])
    liftM (network.send line octets)
  receive line := do
    let piece ← liftM (network.receive line)
    if let .ok octets := piece then modify (· ++ [.received octets])
    return piece
  hangUp line := liftM (network.hangUp line)
  freshNonces := liftM network.freshNonces
  patience := network.patience

namespace Network

variable {State Result : Type}
variable (network : Network m Line) (execution : Execution m World)

theorem patience_transcribing : network.transcribing.patience = network.patience := rfl

theorem run_send_transcribing (line : Line) (octets : Octets) (transcript : Transcript)
    (world : World) :
    (execution.withState _).run (network.transcribing.send line octets) (transcript, world) =
      let sent := execution.run (network.send line octets) world
      (sent.1, transcript ++ [.sent octets], sent.2) := by
  simp only [transcribing, Execution.run_bind, Execution.run_modify, Execution.run_liftM]

theorem run_receive_transcribing_of_ok {line : Line} {world : World} {octets : Octets}
    (arrives : (execution.run (network.receive line) world).1 = .ok octets)
    (transcript : Transcript) :
    (execution.withState _).run (network.transcribing.receive line) (transcript, world) =
      (.ok octets, transcript ++ [.received octets],
        (execution.run (network.receive line) world).2) := by
  simp only [transcribing, Execution.run_bind, Execution.run_liftM, arrives, Execution.run_modify,
    Execution.run_pure]

theorem run_receive_transcribing_of_error {line : Line} {world : World} {reason : String}
    (fails : (execution.run (network.receive line) world).1 = .error reason)
    (transcript : Transcript) :
    (execution.withState _).run (network.transcribing.receive line) (transcript, world) =
      (.error reason, transcript, (execution.run (network.receive line) world).2) := by
  simp only [transcribing, Execution.run_bind, Execution.run_liftM, fails, Execution.run_pure]

theorem run_say_transcribing (line : Line) (octets : Octets) (transcript : Transcript)
    (world : World) :
    (execution.withState _).run (network.transcribing.say line octets) (transcript, world) =
      let said := execution.run (network.say line octets) world
      (said.1, transcript ++ .ofSpoken octets, said.2) := by
  cases octets with
  | nil =>
      simp only [say, List.isEmpty_nil, if_true, Execution.run_pure, Transcript.ofSpoken,
        List.append_nil]
  | cons octet others => exact network.run_send_transcribing execution ..

/-- A conversation with a transcript goes as it goes alone, and what is sent in it is what the
dialogue answers to what is received. -/
theorem run_converse_transcribing (line : Line) (dialogue : Dialogue State Result) (patience : Nat)
    (state : State) (unread : Octets) (transcript : Transcript) (world : World) :
    let outcome := execution.run (network.converse line dialogue patience state unread) world
    ∃ more,
      (execution.withState _).run
          (network.transcribing.converse line dialogue patience state unread) (transcript, world) =
        (outcome.1, transcript ++ more, outcome.2) ∧
      more.Obeys dialogue state unread := by
  induction patience generalizing state unread transcript world with
  | zero =>
      refine ⟨[], ?_, .inl rfl⟩
      simp only [converse, Execution.run_pure, List.append_nil]
  | succ patience inductionHypothesis =>
      cases hearing : dialogue.hear state unread with
      | mk said stance left =>
        rw [run_converse_succ, run_converse_succ, hearing]
        simp only [run_say_transcribing]
        cases execution.run (network.say line said) world with
        | mk answer spoken =>
          cases answer with
          | error reason => exact ⟨_, rfl, Transcript.obeys_spoken_alone hearing⟩
          | ok done =>
              cases stance with
              | ended outcome => exact ⟨_, rfl, Transcript.obeys_spoken_alone hearing⟩
              | listening next =>
                  rcases arrived : (execution.run (network.receive line) spoken).1 with
                    reason | _ | ⟨octet, others⟩
                  · refine ⟨_, ?_, Transcript.obeys_spoken_alone hearing⟩
                    simp only [network.run_receive_transcribing_of_error execution arrived]
                  · refine ⟨_, ?_, Transcript.obeys_spoken hearing (Transcript.sent_received [])⟩
                    simp only [network.run_receive_transcribing_of_ok execution arrived,
                      List.append_assoc]
                  · simp only [network.run_receive_transcribing_of_ok execution arrived]
                    let received : Transcript := [.received (octet :: others)]
                    obtain ⟨more, same, obeys⟩ :=
                      inductionHypothesis next (left ++ octet :: others)
                        (transcript ++ .ofSpoken said ++ received)
                        (execution.run (network.receive line) spoken).2
                    have whole : transcript ++ (.ofSpoken said ++ (received ++ more)) =
                        transcript ++ .ofSpoken said ++ received ++ more := by
                      simp only [List.append_assoc]
                    refine ⟨_, ?_, obeys.spoken_received hearing⟩
                    rw [whole]
                    exact same

/-- A dialogue that is opened with some octets goes with a transcript as it goes alone.  These are
sent first, and then what it answers to what is received. -/
theorem run_ask_transcribing (line : Line) (octets : Octets) (dialogue : Dialogue State Result)
    (state : State) (unread : Octets) (transcript : Transcript) (world : World) :
    let outcome := execution.run (network.ask line octets dialogue state unread) world
    ∃ more : Transcript,
      (execution.withState _).run (network.transcribing.ask line octets dialogue state unread)
          (transcript, world) = (outcome.1, transcript ++ .sent octets :: more, outcome.2) ∧
      more.Obeys dialogue state unread := by
  rw [run_ask, run_ask]
  simp only [run_send_transcribing]
  cases execution.run (network.send line octets) world with
  | mk answer sent =>
    cases answer with
    | error reason => exact ⟨[], rfl, .inl rfl⟩
    | ok done =>
        obtain ⟨more, same, obeys⟩ := network.run_converse_transcribing execution line dialogue
          network.patience state unread (transcript ++ [.sent octets]) sent
        refine ⟨more, ?_, obeys⟩
        rw [patience_transcribing]
        simp only [same, List.append_assoc, List.singleton_append]

/-- A line feeds the same pieces with a transcript as without. -/
theorem Feeds.transcribing {network : Network m Line} {execution : Execution m World} {line : Line}
    {pending : World → List Octets} (feeds : network.Feeds execution line pending) :
    network.transcribing.Feeds (execution.withState Transcript) line
      fun world => pending world.2 where
  receive := by
    intro (transcript, world) piece pieces pending_eq
    obtain ⟨arrived, others⟩ := feeds.receive pending_eq
    rw [network.run_receive_transcribing_of_ok execution arrived]
    exact ⟨rfl, others⟩
  send := by
    intro octets (transcript, world)
    rw [run_send_transcribing]
    exact feeds.send octets world

/-- A transcript shows all that was sent. -/
theorem logs_transcribing (line : Line) :
    network.transcribing.Logs (execution.withState Transcript) line
      fun world => world.1.sent where
  receive := by
    intro (transcript, world)
    cases arrived : (execution.run (network.receive line) world).1 with
    | error reason => rw [network.run_receive_transcribing_of_error execution arrived]
    | ok octets =>
        rw [network.run_receive_transcribing_of_ok execution arrived]
        dsimp only
        rw [Transcript.sent_append, Transcript.sent_received, List.append_nil]
  send := by
    intro octets (transcript, world) _
    rw [run_send_transcribing]
    dsimp only
    rw [Transcript.sent_append, Transcript.sent, Transcript.sent, List.append_nil]

end Network

end BankLedger.Postgres
