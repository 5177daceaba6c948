import BankLedger.Proofs.Database.Accounting
import BankLedger.Proofs.Database.Footprint

/-!
# Journals

What a backend does can be told by its deeds: a connection was sought, a connection was opened, or a
query was called with some texts and answered with a result.  A backend keeps a journal if some view
of the world grows by exactly these deeds.  The calls of one query are a smaller view, which nothing
but that query changes; so whatever else a pool does leaves them alone.
-/

namespace BankLedger.Database

open BankLedger.Sql

variable {m : Type → Type} [Monad m] {World Connection Handshake : Type}

/-- What a backend does.  A connection that is opened at once or by a handshake is sought first. -/
inductive Deed
  | sought
  | opened
  | called (call : Dispatch)

namespace Deed

/-- The deeds of an attempt to open a connection at once. -/
def ofAttempt : Except ConnectionFailure Connection → List Deed
  | .ok _ => [.sought, .opened]
  | .error _ => [.sought]

/-- The deeds of a look at a handshake. -/
def ofLook : Progress Connection Handshake → List Deed
  | .ready _ => [.opened]
  | .pending _ | .failed _ => []

/-- The call of a query, if a deed is one. -/
def callOf? (query : String) : Deed → Option Dispatch
  | .called call => if call.query = query then some call else none
  | .sought | .opened => none

end Deed

/-- The calls of a query among some deeds, oldest first. -/
def callsOf (query : String) (deeds : List Deed) : List Dispatch :=
  deeds.filterMap (Deed.callOf? query)

/-- The texts of the calls that took effect: those whose result is not an error. -/
def Dispatch.effects (calls : List Dispatch) : List (List WireText) :=
  (calls.filter fun call => !call.result.code.isError).map Dispatch.texts

/-- The texts that a query was called with, for each call that took effect, oldest first. -/
def effectsOf (query : String) (deeds : List Deed) : List (List WireText) :=
  Dispatch.effects (callsOf query deeds)

theorem Dispatch.effects_append (earlier later : List Dispatch) :
    effects (earlier ++ later) = effects earlier ++ effects later := by
  rw [effects, List.filter_append, List.map_append, effects, effects]

theorem Dispatch.effects_singleton (call : Dispatch) :
    effects [call] = if call.result.code.isError then [] else [call.texts] := by
  cases failed : call.result.code.isError <;> simp [effects, failed]

section

variable (query : String)

@[simp] theorem callsOf_append (earlier later : List Deed) :
    callsOf query (earlier ++ later) = callsOf query earlier ++ callsOf query later :=
  List.filterMap_append

@[simp] theorem callsOf_ofAttempt (opening : Except ConnectionFailure Connection) :
    callsOf query (Deed.ofAttempt opening) = [] := by
  cases opening <;> rfl

@[simp] theorem callsOf_ofLook (progress : Progress Connection Handshake) :
    callsOf query (Deed.ofLook progress) = [] := by
  cases progress <;> rfl

theorem callsOf_called (call : Dispatch) :
    callsOf query [.called call] = if call.query = query then [call] else [] := by
  by_cases same : call.query = query
  · simp only [callsOf, Deed.callOf?, List.filterMap_cons, if_pos same, List.filterMap_nil]
  · simp only [callsOf, Deed.callOf?, List.filterMap_cons, if_neg same, List.filterMap_nil]

theorem effectsOf_congr {query : String} {deeds others : List Deed}
    (same : callsOf query deeds = callsOf query others) :
    effectsOf query deeds = effectsOf query others :=
  congrArg Dispatch.effects same

theorem effectsOf_of_uncalled {query : String} {deeds : List Deed}
    (uncalled : callsOf query deeds = []) : effectsOf query deeds = [] :=
  congrArg Dispatch.effects uncalled

end

/-- A backend whose deeds are told by a view of the world. -/
structure Backend.KeepsJournal (backend : Backend m Connection Handshake)
    (execution : Execution m World) (journal : World → List Deed) : Prop where
  connect : ∀ credentials world,
    let attempt := execution.run (backend.connect credentials) world
    journal attempt.2 = journal world ++ Deed.ofAttempt attempt.1
  startHandshake : ∀ credentials world,
    journal (execution.run (backend.startHandshake credentials) world).2 =
      journal world ++ [.sought]
  pollHandshake : ∀ handshake world,
    let look := execution.run (backend.pollHandshake handshake) world
    journal look.2 = journal world ++ Deed.ofLook look.1
  execute : ∀ connection query texts world,
    let executed := execution.run (backend.execute connection query texts) world
    journal executed.2 = journal world ++ [.called ⟨query, texts, executed.1.2⟩]
  close : ∀ connection, execution.Leaves journal (backend.close connection)

namespace Backend.KeepsJournal

variable {backend : Backend m Connection Handshake} {execution : Execution m World}
variable {journal : World → List Deed} (keeps : backend.KeepsJournal execution journal)

include keeps

/-- Only running a query changes what was called. -/
theorem leaves_callsOf (query : String) :
    backend.Leaves execution fun world => callsOf query (journal world) where
  connect credentials world := by
    dsimp only
    rw [keeps.connect, callsOf_append, callsOf_ofAttempt, List.append_nil]
  startHandshake credentials world := by
    dsimp only
    rw [keeps.startHandshake, callsOf_append]
    exact List.append_nil _
  pollHandshake handshake world := by
    dsimp only
    rw [keeps.pollHandshake, callsOf_append, callsOf_ofLook, List.append_nil]
  close connection world := congrArg (callsOf query) (keeps.close connection world)

/-- A query that can be sent is called once or, for want of a connection, not at all. -/
theorem callsOf_executePool (query other : String) {parameters : List Value}
    {texts : List WireText} (sent : wireTexts parameters = .ok texts)
    (pool : Pool Connection Handshake) (world : World) :
    let outcome := (execution.withState (Pool Connection Handshake)).run
      (Pool.execute backend query parameters) (pool, world)
    (outcome.1 = Pool.exhausted outcome.2.1 ∧ outcome.2.2 = world) ∨
      callsOf other (journal outcome.2.2) = callsOf other (journal world) ++
        if query = other then [⟨query, texts, outcome.1⟩] else [] := by
  intro outcome
  rcases (keeps.leaves_callsOf other).execute_exhausted_or_executed query sent pool world with
    ⟨result, unchanged⟩ | ⟨connection, result, noted⟩
  · exact .inl ⟨result, unchanged⟩
  · right
    rw [noted, keeps.execute, callsOf_append, callsOf_called, ← result]

end Backend.KeepsJournal

/-! ## Keeping a journal -/

/-- An action whose deeds are written down behind those before it. -/
def Deed.writing {α : Type} (deeds : α → List Deed) (action : m α) : StateT (List Deed) m α := do
  let answer ← liftM action
  modify (· ++ deeds answer)
  return answer

theorem Deed.journal_writing {α : Type} (execution : Execution m World) (deeds : α → List Deed)
    (action : m α) (state : List Deed × World) :
    let outcome := (execution.withState (List Deed)).run (writing deeds action) state
    outcome.2.1 = state.1 ++ deeds outcome.1 := by
  obtain ⟨written, world⟩ := state
  simp only [writing, Execution.run_bind, Execution.run_liftM, Execution.run_modify,
    Execution.run_pure]

/-- The same backend with a journal beside its effects. -/
def Backend.journaling (backend : Backend m Connection Handshake) :
    Backend (StateT (List Deed) m) Connection Handshake where
  vendor := backend.vendor
  connectionSize := backend.connectionSize
  connect credentials := Deed.writing Deed.ofAttempt (backend.connect credentials)
  startHandshake credentials :=
    Deed.writing (fun _ => [.sought]) (backend.startHandshake credentials)
  pollHandshake handshake := Deed.writing Deed.ofLook (backend.pollHandshake handshake)
  execute connection query texts :=
    Deed.writing (fun executed => [.called ⟨query, texts, executed.2⟩])
      (backend.execute connection query texts)
  close connection := Deed.writing (fun _ => []) (backend.close connection)

/-- Every backend can keep a journal. -/
theorem Backend.keepsJournal_journaling (backend : Backend m Connection Handshake)
    (execution : Execution m World) :
    backend.journaling.KeepsJournal (execution.withState (List Deed)) Prod.fst where
  connect _ _ := Deed.journal_writing execution _ _ _
  startHandshake _ _ := Deed.journal_writing execution _ _ _
  pollHandshake _ _ := Deed.journal_writing execution _ _ _
  execute _ _ _ _ := Deed.journal_writing execution _ _ _
  close _ _ := (Deed.journal_writing execution _ _ _).trans (List.append_nil _)

end BankLedger.Database
