import BankLedger.Command.FileTree
import BankLedger.Command.Run
import BankLedger.Proofs.Ledger.Deeds

/-!
# Exit codes

A command that carries out a movement tells by its exit code what became of it: completed, rejected
by the overdraft limit, failed, or kept from starting by its configuration, which may also make the
program panic.  `Ending` lists these with what the journal of the backend says of each, and every
run of the command ends in one of them.
-/

namespace BankLedger.Command

open BankLedger.Database BankLedger.Ledger BankLedger.Settings

variable {m : Type → Type} [Monad m] {World View Connection Handshake : Type}

/-- What the program leaves for the answer of its command. -/
def Outcome.ofAnswer : Except Failure Outcome → Outcome
  | .ok outcome => outcome
  | .error failure => failure.outcome

/-- A host whose files and whose pauses leave what is seen of the world as it is. -/
structure Host.Leaves (host : Host m) (execution : Execution m World) (view : World → View) :
    Prop where
  readFile : ∀ path, execution.Leaves view (host.readFile path)
  pause : ∀ milliseconds, execution.Leaves view (host.pause milliseconds)

/-! ## Configurations -/

theorem Host.Leaves.loadConfiguration {host : Host m} {execution : Execution m World}
    {view : World → View} (leaves : host.Leaves execution view) (environment : Environment)
    (invocation : Invocation) :
    execution.Leaves view (loadConfiguration host environment invocation) := by
  have document : execution.Leaves view (loadDocument host invocation.directory) := by
    cases invocation.directory with
    | none => exact Execution.leaves_pure _
    | some directory => exact .bind (leaves.readFile _) fun _ => Execution.leaves_pure _
  apply Execution.Leaves.bind document
  intro answer
  cases answer with
  | error failure => exact Execution.leaves_pure _
  | ok document => exact Execution.leaves_pure _

theorem exitCode_loadConfiguration {host : Host m} {execution : Execution m World}
    {environment : Environment} {invocation : Invocation} {world : World} {failure : Failure}
    (failed : (execution.run (loadConfiguration host environment invocation) world).1 =
      .error failure) : failure.exitCode = 2 := by
  simp only [loadConfiguration, Execution.run_bind] at failed
  cases read : (execution.run (loadDocument host invocation.directory) world).1 with
  | error cause =>
      simp only [read, Execution.run_pure] at failed
      cases failed
      rfl
  | ok document =>
      simp only [read, Execution.run_pure] at failed
      cases resolved : (withConnections invocation.connections document).resolve environment with
      | error cause =>
          rw [resolved] at failed
          cases failed
          rfl
      | ok configuration =>
          rw [resolved] at failed
          cases failed

/-! ## Movements -/

/-- The answer of a command to how its movement ended. -/
def answerTo : Except BankFailure MovementOutcome → Except Failure Outcome
  | .error failure => .error (.bank failure)
  | .ok outcome => .ok (movementOutcome outcome)

theorem run_perform_transact (host : Host m) (backend : Backend m Connection Handshake)
    (execution : Execution m World) (limit account : Int64) (body : String)
    (state : Accounts × Pool Connection Handshake × World) :
    let pooled := execution.withState (Pool Connection Handshake)
    (pooled.withState Accounts).run (perform host backend limit (.transact account body)) state =
      let outcome := (pooled.withState Accounts).run
        (Bank.transactRequest (pooledStorage backend) account body) state
      (answerTo outcome.1, outcome.2) := by
  simp only [perform, Execution.run_bind]
  cases answer : (((execution.withState _).withState Accounts).run
      (Bank.transactRequest (pooledStorage backend) account body) state).1 with
  | error failure => exact Execution.run_pure _ _ _
  | ok outcome => exact Execution.run_pure _ _ _

/-- The answer with metrics written beside it, if they are shown. -/
def besideMetrics (showsMetrics : Bool) (metrics : String) (answer : Except Failure Outcome) :
    Except Failure Outcome :=
  answer.map fun outcome =>
    if showsMetrics then { outcome with errors := outcome.errors ++ metrics } else outcome

theorem exitCode_and_output_besideMetrics (showsMetrics : Bool) (metrics : String)
    (outcome : Outcome) :
    let left := Outcome.ofAnswer (besideMetrics showsMetrics metrics (.ok outcome))
    left.exitCode = outcome.exitCode ∧ left.output = outcome.output := by
  cases showsMetrics <;> exact ⟨rfl, rfl⟩

/-! ## Endings -/

/-- How a command may end that carries out a movement, with what it leaves and with the deeds in the
journal.  A relation says which services may have been started with which configurations. -/
inductive Ending (started : Runtime → Service Connection Handshake → Prop) (account : Int64)
    (body : String) : Outcome → List Deed → Prop
  | unconfigured {outcome : Outcome} (code : outcome.exitCode = 2) :
      Ending started account body outcome []
  | panicked {outcome : Outcome} (code : outcome.exitCode = 101) :
      Ending started account body outcome []
  | failed {outcome : Outcome} {deeds : List Deed} (code : outcome.exitCode = 1)
      (unrecorded : effectsOf recordQuery deeds = []) :
      Ending started account body outcome deeds
  | rejected {outcome : Outcome} {deeds : List Deed} {configuration : Runtime}
      {service : Service Connection Handshake} {movement : Movement}
      (code : outcome.exitCode = 3) (start : started configuration service)
      (greatest : service.accounts.greatest = configuration.ledger.maxAccountId)
      (known : service.accounts.id? account = some ⟨account⟩)
      (valid : Movement.ofRequest body = .ok movement)
      (refused : (service.accounts.read ⟨account⟩).move? movement = none)
      (unsettled : callsOf settlementQuery deeds = [])
      (unrecorded : callsOf recordQuery deeds = []) :
      Ending started account body outcome deeds
  | completed {outcome : Outcome} {deeds : List Deed} {movement : Movement} {after : Account}
      (code : outcome.exitCode = 0) (printed : outcome.output = after.toJson.indented ++ "\n")
      (valid : Movement.ofRequest body = .ok movement)
      (recorded : effectsOf recordQuery deeds =
        [(Request.recordMovement ⟨account⟩ movement).texts])
      (settled : effectsOf settlementQuery deeds =
        [(Request.settleBalance ⟨account⟩ after.balance).texts]) :
      Ending started account body outcome deeds

namespace Ending

variable {started : Runtime → Service Connection Handshake → Prop} {account : Int64}
variable {body : String} {outcome : Outcome} {deeds : List Deed}

/-- The ending of a request that took its course on a started service, if the journal has nothing of
both queries but what the exchanges say. -/
theorem of_course {configuration : Runtime} {service : Service Connection Handshake}
    {answer : Except BankFailure MovementOutcome} {exchanges : List Exchange}
    (start : started configuration service)
    (greatest : service.accounts.greatest = configuration.ledger.maxAccountId)
    (course : RequestCourse account body service.accounts answer exchanges)
    (records : effectsOf recordQuery deeds = exchanges.flatMap (Exchange.effects recordQuery))
    (settles : effectsOf settlementQuery deeds =
      exchanges.flatMap (Exchange.effects settlementQuery))
    (silent : exchanges = [] → callsOf settlementQuery deeds = [] ∧ callsOf recordQuery deeds = [])
    (showsMetrics : Bool) (metrics : String) :
    Ending started account body
      (.ofAnswer (besideMetrics showsMetrics metrics (answerTo answer))) deeds := by
  cases answer with
  | error failure => exact .failed rfl (records.trans course.effects_of_error)
  | ok outcome =>
      obtain ⟨code, output⟩ :=
        exitCode_and_output_besideMetrics showsMetrics metrics (movementOutcome outcome)
      cases outcome with
      | rejected =>
          obtain ⟨none, known, movement, valid, refused⟩ := course.of_rejected
          obtain ⟨unsettled, unrecorded⟩ := silent none
          exact .rejected code start greatest known valid refused unsettled unrecorded
      | completed after =>
          obtain ⟨movement, valid, recorded, settled⟩ := course.effects_of_completed
          exact .completed code output valid (records.trans recorded) (settles.trans settled)

/-- Something was recorded exactly if the exit code is 0. -/
theorem unrecorded_iff (ending : Ending started account body outcome deeds) :
    effectsOf recordQuery deeds = [] ↔ outcome.exitCode ≠ 0 := by
  cases ending with
  | unconfigured code | panicked code =>
      rw [code]
      exact ⟨fun _ => by decide, fun _ => rfl⟩
  | failed code unrecorded => simp [code, unrecorded]
  | rejected code _ _ _ _ _ _ unrecorded => simp [code, effectsOf_of_uncalled unrecorded]
  | completed code _ _ recorded => simp [code, recorded]

theorem undone_of_exitCode_eq_two (ending : Ending started account body outcome deeds)
    (two : outcome.exitCode = 2) : deeds = [] := by
  cases ending with
  | unconfigured => rfl
  | panicked code | failed code | rejected code | completed code => cases code.symm.trans two

end Ending

section

variable {backend : Backend m Connection Handshake} {execution : Execution m World}
variable {journal : World → List Deed} (keeps : backend.KeepsJournal execution journal)
variable {host : Host m} (quiet : host.Leaves execution journal)

include keeps quiet

theorem ending_serve {started : Runtime → Service Connection Handshake → Prop}
    {configuration : Runtime} {world : World}
    (starts : ∀ service, (execution.run (Startup.start backend host.pause configuration [])
      world).1 = .ok service → started configuration service)
    (blank : journal world = []) (showsMetrics : Bool) (account : Int64) (body : String) :
    let served := execution.run
      (serve host backend configuration showsMetrics (.transact account body)) world
    Ending started account body (.ofAnswer served.1) (journal served.2) := by
  have beginning := Startup.beginning_start backend execution host.pause configuration [] world
  simp only [serve, Execution.run_bind]
  generalize execution.run (Startup.start backend host.pause configuration []) world = begun
    at beginning starts ⊢
  obtain ⟨answer, after⟩ := begun
  have uncalled {query : String} (differ : Request.loadAccounts.query ≠ query) :
      callsOf query (journal after) = [] := by
    rw [callsOf_of_beginning keeps quiet.pause beginning differ, blank]
    rfl
  have loadingSettles : Request.loadAccounts.query ≠ settlementQuery := by decide
  have loadingRecords : Request.loadAccounts.query ≠ recordQuery := by decide
  cases answer with
  | error unstarted =>
      cases unstarted with
      | failed failure metrics =>
          simp only [Execution.run_pure]
          rcases beginning.exitCode_of_error with one | ⟨two, rfl⟩
          · exact .failed one (effectsOf_of_uncalled (uncalled loadingRecords))
          · rw [blank]
            exact .unconfigured two
      | panicked panic =>
          simp only [Execution.run_pure]
          rw [beginning.undone_of_panicked, blank]
          exact .panicked rfl
  | ok service =>
      obtain ⟨exchanges, course, effects, silent⟩ :=
        transactRequest_deeds keeps account body service.accounts service.pool after
      have effectsAfter {query : String} (differ : Request.loadAccounts.query ≠ query) := by
        have effects := effects query
        rw [effectsOf_of_uncalled (uncalled differ), List.nil_append] at effects
        exact effects
      simp only [Execution.run_bind, Execution.run_run, run_perform_transact, Execution.run_pure]
      apply Ending.of_course (starts service rfl) beginning.greatest_of_ok course
      · exact effectsAfter loadingRecords
      · exact effectsAfter loadingSettles
      · intro none
        constructor
        · exact (silent none _).trans (uncalled loadingSettles)
        · exact (silent none _).trans (uncalled loadingRecords)

end

/-! ## The exit code -/

/-- The command reads its configuration and starts a service with it. -/
def Starts (host : Host m) (backend : Backend m Connection Handshake)
    (execution : Execution m World) (environment : Environment) (invocation : Invocation)
    (world : World) (configuration : Runtime) (service : Service Connection Handshake) : Prop :=
  let configured := execution.run (loadConfiguration host environment invocation) world
  configured.1 = .ok configuration ∧
    (execution.run (Startup.start backend host.pause configuration []) configured.2).1 =
      .ok service

theorem ending_run {backend : Backend m Connection Handshake} {execution : Execution m World}
    {journal : World → List Deed} (keeps : backend.KeepsJournal execution journal) {host : Host m}
    (quiet : host.Leaves execution journal) (environment : Environment) {invocation : Invocation}
    {account : Int64} {body : String}
    (asked : invocation.action = .serve (.transact account body)) {world : World}
    (blank : journal world = []) :
    let ran := execution.run (run host backend environment invocation) world
    Ending (Starts host backend execution environment invocation world) account body
      (.ofAnswer ran.1) (journal ran.2) := by
  have read := (quiet.loadConfiguration environment invocation world).trans blank
  rw [Command.run, asked, Execution.run_bind]
  cases configured : (execution.run (loadConfiguration host environment invocation) world).1 with
  | error failure =>
      simp only [Execution.run_pure]
      rw [read]
      exact .unconfigured (exitCode_loadConfiguration configured)
  | ok configuration =>
      exact ending_serve keeps quiet (fun service started => ⟨configured, started⟩) read
        invocation.showsMetrics account body

/-- The exit code of a command that carries out a movement tells what was done.  It is 0 exactly if
one movement was recorded, the one that the body describes, and the balance that is printed was
settled.  It is 3 only if a service was started, the overdraft rule refuses the debit that the body
describes to an account of the ledger, and neither query was called.  It is 2 only if no connection
was opened or sought, and with 1 or 2 no movement was recorded. -/
theorem exit_code_tells_the_truth (backend : Backend m Connection Handshake)
    (execution : Execution m World) (journal : World → List Deed)
    (keeps : backend.KeepsJournal execution journal) (host : Host m)
    (quiet : host.Leaves execution journal) (environment : Environment)
    (directory : Option String) (connections : Option UInt64) (showsMetrics : Bool)
    (account : Int64) (body : String) (world : World) (blank : journal world = []) :
    let invocation : Invocation :=
      ⟨directory, connections, showsMetrics, .serve (.transact account body)⟩
    let ran := execution.run (run host backend environment invocation) world
    let outcome := Outcome.ofAnswer ran.1
    let deeds := journal ran.2
    (outcome.exitCode = 0 ↔ ∃ (movement : Movement) (after : Account),
      Movement.ofRequest body = .ok movement ∧
      effectsOf recordQuery deeds = [(Request.recordMovement ⟨account⟩ movement).texts] ∧
      outcome.output = after.toJson.indented ++ "\n" ∧
      effectsOf settlementQuery deeds =
        [(Request.settleBalance ⟨account⟩ after.balance).texts]) ∧
    (outcome.exitCode = 3 → ∃ configuration service movement,
      Starts host backend execution environment invocation world configuration service ∧
      1 ≤ account.toInt ∧ account.toInt ≤ configuration.ledger.maxAccountId.toInt ∧
      Movement.ofRequest body = .ok movement ∧ movement.direction = .debit ∧
      (service.accounts.read ⟨account⟩).balance.toInt - movement.amount.toInt <
        (service.accounts.read ⟨account⟩).floor ∧
      callsOf settlementQuery deeds = [] ∧ callsOf recordQuery deeds = []) ∧
    (outcome.exitCode = 2 → .sought ∉ deeds ∧ .opened ∉ deeds) ∧
    (outcome.exitCode = 1 ∨ outcome.exitCode = 2 → effectsOf recordQuery deeds = []) := by
  intro invocation ran outcome deeds
  have ending : Ending (Starts host backend execution environment invocation world) account body
      outcome deeds := ending_run keeps quiet environment rfl blank
  clear_value outcome deeds
  refine ⟨?completed, ?rejected, ?unconfigured, ?unrecorded⟩
  case completed =>
    constructor
    · intro zero
      cases ending with
      | completed code printed valid recorded settled =>
          exact ⟨_, _, valid, recorded, printed, settled⟩
      | unconfigured code | panicked code | failed code | rejected code =>
          cases code.symm.trans zero
    · rintro ⟨movement, after, _, recorded, _⟩
      by_contra other
      rw [ending.unrecorded_iff.mpr other] at recorded
      cases recorded
  case rejected =>
    intro three
    cases ending with
    | @rejected _ configuration service movement _ start greatest known valid refused
        unsettled unrecorded =>
        obtain ⟨least, most⟩ := (Option.ite_none_right_eq_some.mp known).1
        rw [greatest] at most
        obtain ⟨debit, below⟩ := Account.refused_of_move? refused
        exact ⟨configuration, service, movement, start, least, most, valid, debit, below,
          unsettled, unrecorded⟩
    | unconfigured code | panicked code | failed code | completed code =>
        cases code.symm.trans three
  case unconfigured =>
    intro two
    rw [ending.undone_of_exitCode_eq_two two]
    exact ⟨List.not_mem_nil, List.not_mem_nil⟩
  case unrecorded =>
    intro code
    rw [ending.unrecorded_iff]
    omega

/-- A host that has no files and on which no time passes. -/
def bareHost (environment : Environment) : Host m where
  environment := environment
  environmentFile := return none
  readFile _ := return .error FileFault.missing.message
  writeFile _ _ := return .error FileFault.missing.message
  makeDirectory _ := return .error FileFault.missing.message
  now := return ""
  pause _ := return ()

theorem bareHost_leaves (environment : Environment) (execution : Execution m World)
    (view : World → View) : (bareHost environment).Leaves execution view where
  readFile _ := Execution.leaves_pure _
  pause _ := Execution.leaves_pure _

/-- The variables without which the document to start with makes no configuration. -/
def sufficientEnvironment : Environment :=
  .ofList [("DB_HOST", .text "localhost"), ("DB_DATABASE", .text "ledger"),
    ("DB_USER", .text "bank")]

/-- A credit that is stored ends with the exit code 0, and its movement is the one recorded. -/
theorem exit_code_tells_the_truth_of_a_credit :
    let body := "\x7b\"amount\": 25, \"direction\": \"c\", \"description\": \"gift\"\x7d"
    let host := bareHost sufficientEnvironment
    let backend := dictatedBackend.journaling
    let execution := Execution.direct.withState (List Deed)
    let ran := execution.run (run host backend sufficientEnvironment
      ⟨none, none, true, .serve (.transact 1 body)⟩) ([], [], Books.ofRow ⟨1, 100, 500⟩)
    backend.KeepsJournal execution Prod.fst ∧ host.Leaves execution Prod.fst ∧
      (Outcome.ofAnswer ran.1).exitCode = 0 ∧
      ∃ movement : Movement, Movement.ofRequest body = .ok movement ∧
        effectsOf recordQuery ran.2.1 = [(Request.recordMovement ⟨1⟩ movement).texts] := by
  intro body host backend execution ran
  have keeps := dictatedBackend.keepsJournal_journaling Execution.direct
  have quiet := bareHost_leaves sufficientEnvironment execution Prod.fst
  have code : (Outcome.ofAnswer ran.1).exitCode = 0 := by decide +kernel
  obtain ⟨zero, _⟩ := exit_code_tells_the_truth backend execution Prod.fst keeps host quiet
    sufficientEnvironment none none true 1 body ([], [], Books.ofRow ⟨1, 100, 500⟩) rfl
  obtain ⟨movement, after, valid, recorded, _⟩ := zero.mp code
  exact ⟨keeps, quiet, code, movement, valid, recorded⟩

end BankLedger.Command
