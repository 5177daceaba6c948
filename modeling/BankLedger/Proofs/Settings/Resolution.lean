import BankLedger.Database.Rehearsal
import BankLedger.Proofs.Database.Transition
import BankLedger.Proofs.Text.Digits
import BankLedger.Settings.Runtime

/-!
# Resolved configurations

Which documents make a runtime configuration in an environment, and which one.  A setting that has
to be there needs a text.  One that may be missing has a text, is absent, or names a variable that
is not set; a variable that holds something else than text is refused in both places.  The outcome
depends on the environment only through the variables that the document names.  A pool for it lacks
at most a setting whose text is empty, but its size is bounded from below only: with more
connections than fit into a buffer, making the pool panics.
-/

namespace BankLedger.Settings

open BankLedger.Database BankLedger.Text

variable {environment : Environment} {document : Document} {runtime : Runtime}

/-! ## What settings stand for -/

/-- A setting has a text: it is plain, or its variable holds the text. -/
inductive Secret.Gives (environment : Environment) : Secret → String → Prop
  | plain (text : String) : Gives environment (.plain text) text
  | held {name text : String} (held : environment name = .text text) :
      Gives environment (.variable name) text

/-- A setting that may be missing has a text or not: it has none if it is absent or its variable is
not set. -/
inductive Provides (environment : Environment) : Option Secret → Option String → Prop
  | absent : Provides environment none none
  | given {secret : Secret} {text : String} (gives : secret.Gives environment text) :
      Provides environment (some secret) (some text)
  | unset {name : String} (missing : environment name = .unset) :
      Provides environment (some (.variable name)) none

/-- A text writes a port: decimal digits, perhaps after a plus sign, of a number of sixteen bits. -/
def WritesPort (text : String) (port : Nat) : Prop :=
  ∃ digits : List Char, (text.toList = digits ∨ text.toList = '+' :: digits) ∧ digits ≠ [] ∧
    (∀ digit ∈ digits, isDigit digit = true) ∧ digitsValue digits = port ∧ port ≤ 65535

/-- The port that a resolved setting stands for: the default one if there is no text or an empty
one, and otherwise the one that the text writes. -/
inductive NamesPort (default : Nat) : Option String → Nat → Prop
  | absent : NamesPort default none default
  | empty : NamesPort default (some "") default
  | written {text : String} {port : Nat} (writes : WritesPort text port) :
      NamesPort default (some text) port

namespace Document

/-- The sizes that a document states are within their bounds. -/
structure Sized (document : Document) : Prop where
  connections : 1 ≤ document.pool.connections.toNat
  fewestAccounts : 1 ≤ document.ledger.maxAccountId.toInt
  mostAccounts : document.ledger.maxAccountId.toInt ≤ 10000
  statements : 1 ≤ document.ledger.statementLimit.toInt

/-- A document can be used in an environment. -/
structure Usable (environment : Environment) (document : Document) : Prop where
  host : ∃ text, document.connection.host.Gives environment text
  database : ∃ text, document.connection.database.Gives environment text
  user : ∃ text, document.connection.user.Gives environment text
  password : ∃ text, Provides environment document.connection.password text
  role : ∃ text, Provides environment document.connection.role text
  port : ∃ text, Provides environment document.connection.port text ∧
    ∃ port, NamesPort document.vendor.defaultPort text port
  sized : document.Sized

/-- A runtime configuration holds what the settings of a document stand for in an environment. -/
structure Yields (environment : Environment) (document : Document) (runtime : Runtime) : Prop where
  vendor : runtime.vendor = document.vendor
  host : document.connection.host.Gives environment runtime.credentials.host
  database : document.connection.database.Gives environment runtime.credentials.database
  user : document.connection.user.Gives environment runtime.credentials.user
  password : ∃ text, Provides environment document.connection.password text ∧
    runtime.credentials.password = text.getD ""
  role : ∃ text, Provides environment document.connection.role text ∧
    runtime.credentials.role = text.getD ""
  port : ∃ text, Provides environment document.connection.port text ∧
    NamesPort document.vendor.defaultPort text runtime.credentials.port
  timeout : runtime.credentials.connectTimeoutMs = some document.pool.connectTimeoutMs.toNat
  pool : runtime.pool = document.pool
  ledger : runtime.ledger = document.ledger

end Document

/-! ## Resolving -/

/-- A step and what follows it succeed exactly if each of them does. -/
theorem bind_eq_ok_iff {ε α β : Type} {first : Except ε α} {next : α → Except ε β} {answer : β} :
    first >>= next = .ok answer ↔ ∃ value, first = .ok value ∧ next value = .ok answer := by
  cases first with
  | error failure => simp [bind, Except.bind]
  | ok value => simp [bind, Except.bind]

theorem mapError_eq_ok_iff {ε δ α : Type} {wrap : ε → δ} {outcome : Except ε α} {value : α} :
    outcome.mapError wrap = .ok value ↔ outcome = .ok value := by
  constructor
  · intro succeeded
    cases outcome with
    | error failure => cases succeeded
    | ok _ =>
        cases succeeded
        rfl
  · rintro rfl
    rfl

theorem Secret.resolve_eq_ok_iff {secret : Secret} {text : String} :
    secret.resolve environment = .ok text ↔ secret.Gives environment text := by
  constructor
  · intro resolved
    match secret with
    | .plain _ =>
        cases resolved
        exact .plain text
    | .variable name =>
        rw [Secret.resolve, Environment.read] at resolved
        split at resolved
        next => cases resolved
        next => cases resolved
        next held =>
          cases resolved
          exact .held held
  · intro gives
    cases gives with
    | plain => rfl
    | held held => rw [Secret.resolve, Environment.read, held]

theorem requiredText_eq_ok_iff {setting : String} {secret : Secret} {text : String} :
    requiredText environment setting secret = .ok text ↔ secret.Gives environment text := by
  rw [requiredText, mapError_eq_ok_iff, Secret.resolve_eq_ok_iff]

theorem Secret.resolveOptional_eq_ok_iff {secret : Secret} {text : Option String} :
    secret.resolveOptional environment = .ok text ↔ Provides environment (some secret) text := by
  constructor
  · intro resolved
    rw [Secret.resolveOptional] at resolved
    split at resolved
    next given =>
      cases resolved
      exact .given (Secret.resolve_eq_ok_iff.mp given)
    next failed =>
      cases resolved
      match secret with
      | .plain _ => cases failed
      | .variable name =>
          rw [Secret.resolve, Environment.read] at failed
          split at failed
          next missing => exact .unset missing
          next => cases failed
          next => cases failed
    next => cases resolved
  · intro provides
    cases provides with
    | given gives => rw [Secret.resolveOptional, Secret.resolve_eq_ok_iff.mpr gives]
    | unset missing =>
        rw [Secret.resolveOptional, Secret.resolve, Environment.read, missing]

theorem optionalText_eq_ok_iff {setting : String} {secret : Option Secret}
    {text : Option String} :
    optionalText environment setting secret = .ok text ↔ Provides environment secret text := by
  cases secret with
  | none =>
      constructor
      · intro resolved
        cases resolved
        exact .absent
      · intro provides
        cases provides
        rfl
  | some secret => rw [optionalText, mapError_eq_ok_iff, Secret.resolveOptional_eq_ok_iff]

theorem WritesPort.ne_empty {text : String} {port : Nat} (writes : WritesPort text port) :
    text ≠ "" := by
  rintro rfl
  obtain ⟨digits, spelled, some, _⟩ := writes
  rcases spelled with rfl | plus
  · exact some rfl
  · cases plus

theorem portOf_eq_ok_iff {default port : Nat} {text : Option String} :
    portOf default text = .ok port ↔ NamesPort default text port := by
  constructor
  · intro named
    unfold portOf at named
    split at named
    next =>
      cases named
      exact .absent
    next text =>
      split at named
      next empty =>
        cases named
        rw [String.isEmpty_iff.mp empty]
        exact .empty
      next =>
        split at named
        next read =>
          cases named
          exact .written (readNatural_eq_ok_iff.mp read)
        next => cases named
  · intro names
    cases names with
    | absent => rfl
    | empty => rfl
    | written writes =>
        have nonempty := writes.ne_empty
        rw [portOf, if_neg (by simpa using nonempty), readNatural_eq_ok_iff.mpr writes]

theorem checkSizes_eq_ok_iff {checked : Unit} :
    checkSizes document.pool document.ledger = .ok checked ↔ document.Sized := by
  unfold checkSizes
  constructor
  · intro checked
    split at checked
    next => cases checked
    next connections =>
      split at checked
      next => cases checked
      next positive =>
        split at checked
        next => cases checked
        next most =>
          simp only [Bool.or_eq_true, decide_eq_true_eq, not_or, Int.not_lt] at positive
          exact ⟨Nat.not_lt.mp connections, positive.1, Int.not_lt.mp most, positive.2⟩
  · rintro ⟨connections, fewest, most, statements⟩
    rw [if_neg (Nat.not_lt.mpr connections), if_neg, if_neg]
    · exact Int.not_lt.mpr most
    · simp only [Bool.or_eq_true, decide_eq_true_eq, not_or, Int.not_lt]
      exact ⟨fewest, statements⟩

/-- A document resolves to a runtime configuration exactly if its sizes are within their bounds and
the configuration holds what its settings stand for. -/
theorem Document.resolve_eq_ok_iff :
    document.resolve environment = .ok runtime ↔
      document.Sized ∧ document.Yields environment runtime := by
  simp only [Document.resolve, bind_eq_ok_iff, requiredText_eq_ok_iff, optionalText_eq_ok_iff,
    portOf_eq_ok_iff, checkSizes_eq_ok_iff]
  constructor
  · rintro ⟨host, givesHost, database, givesDatabase, user, givesUser, password, hasPassword, role,
      hasRole, portText, hasPort, port, namesPort, _, sized, made⟩
    cases made
    exact ⟨sized, rfl, givesHost, givesDatabase, givesUser, ⟨password, hasPassword, rfl⟩,
      ⟨role, hasRole, rfl⟩, ⟨portText, hasPort, namesPort⟩, rfl, rfl, rfl⟩
  · rintro ⟨sized, yields⟩
    obtain ⟨password, hasPassword, samePassword⟩ := yields.password
    obtain ⟨role, hasRole, sameRole⟩ := yields.role
    obtain ⟨portText, hasPort, namesPort⟩ := yields.port
    refine ⟨_, yields.host, _, yields.database, _, yields.user, password, hasPassword, role,
      hasRole, portText, hasPort, _, namesPort, (), sized, ?_⟩
    rw [← samePassword, ← sameRole, ← yields.vendor, ← yields.timeout, ← yields.pool,
      ← yields.ledger]
    rfl

/-- A document resolves exactly if it can be used in the environment. -/
theorem Document.exists_resolve_iff :
    (∃ runtime, document.resolve environment = .ok runtime) ↔ document.Usable environment := by
  constructor
  · rintro ⟨runtime, resolved⟩
    obtain ⟨sized, yields⟩ := resolve_eq_ok_iff.mp resolved
    obtain ⟨password, hasPassword, _⟩ := yields.password
    obtain ⟨role, hasRole, _⟩ := yields.role
    obtain ⟨portText, hasPort, namesPort⟩ := yields.port
    exact ⟨⟨_, yields.host⟩, ⟨_, yields.database⟩, ⟨_, yields.user⟩, ⟨password, hasPassword⟩,
      ⟨role, hasRole⟩, ⟨portText, hasPort, _, namesPort⟩, sized⟩
  · rintro ⟨⟨host, givesHost⟩, ⟨database, givesDatabase⟩, ⟨user, givesUser⟩,
      ⟨password, hasPassword⟩, ⟨role, hasRole⟩, ⟨portText, hasPort, port, namesPort⟩, sized⟩
    let credentials : Credentials := ⟨host, port, database, user, password.getD "",
      role.getD "", some document.pool.connectTimeoutMs.toNat⟩
    refine ⟨⟨document.vendor, credentials, document.pool, document.ledger⟩, ?_⟩
    exact resolve_eq_ok_iff.mpr ⟨sized, rfl, givesHost, givesDatabase, givesUser,
      ⟨password, hasPassword, rfl⟩, ⟨role, hasRole, rfl⟩, ⟨portText, hasPort, namesPort⟩, rfl, rfl,
      rfl⟩

/-! ## What is read of the environment -/

/-- The settings of a connection that may be variables. -/
def ConnectionSettings.secrets (settings : ConnectionSettings) : List Secret :=
  [settings.host, settings.database, settings.user] ++ settings.password.toList ++
    settings.role.toList ++ settings.port.toList

theorem ConnectionSettings.mem_secrets (settings : ConnectionSettings) (secret : Secret) :
    secret ∈ settings.secrets ↔
      secret = settings.host ∨ secret = settings.database ∨ secret = settings.user ∨
        secret ∈ settings.password ∨ secret ∈ settings.role ∨ secret ∈ settings.port := by
  simp [secrets]

/-- The variables that a document names. -/
def Document.variableNames (document : Document) : List String :=
  document.connection.secrets.filterMap Secret.variableName?

section Agreement

variable {other : Environment} {setting : String}

theorem Secret.resolve_congr {secret : Secret}
    (agree : ∀ name ∈ secret.variableName?, environment name = other name) :
    secret.resolve environment = secret.resolve other := by
  match secret with
  | .plain _ => rfl
  | .variable name =>
      rw [Secret.resolve, Secret.resolve, Environment.read, Environment.read, agree name rfl]

theorem requiredText_congr {secret : Secret}
    (agree : ∀ name ∈ secret.variableName?, environment name = other name) :
    requiredText environment setting secret = requiredText other setting secret := by
  rw [requiredText, requiredText, Secret.resolve_congr agree]

theorem optionalText_congr {secret : Option Secret}
    (agree : ∀ given ∈ secret, ∀ name ∈ given.variableName?, environment name = other name) :
    optionalText environment setting secret = optionalText other setting secret := by
  cases secret with
  | none => rfl
  | some secret =>
      rw [optionalText, optionalText, Secret.resolveOptional, Secret.resolveOptional,
        Secret.resolve_congr (agree secret rfl)]

/-- Environments that agree on the variables a document names resolve it in the same way. -/
theorem Document.resolve_congr
    (agree : ∀ name ∈ document.variableNames, environment name = other name) :
    document.resolve environment = document.resolve other := by
  have required (setting : String) (secret : Secret)
      (member : secret ∈ document.connection.secrets) :
      requiredText environment setting secret = requiredText other setting secret := by
    apply requiredText_congr
    intro name named
    exact agree name (List.mem_filterMap.mpr ⟨secret, member, named⟩)
  have optional (setting : String) (secret : Option Secret)
      (member : ∀ given ∈ secret, given ∈ document.connection.secrets) :
      optionalText environment setting secret = optionalText other setting secret := by
    apply optionalText_congr
    intro given held name named
    exact agree name (List.mem_filterMap.mpr ⟨given, member given held, named⟩)
  have members := document.connection.mem_secrets
  simp only [Document.resolve, required _ document.connection.host (by simp [members]),
    required _ document.connection.database (by simp [members]),
    required _ document.connection.user (by simp [members]),
    optional _ document.connection.password (by simp +contextual [members]),
    optional _ document.connection.role (by simp +contextual [members]),
    optional _ document.connection.port (by simp +contextual [members])]

end Agreement

/-! ## Pools for what was resolved -/

/-- A setting has at most one text. -/
theorem Secret.Gives.unique {secret : Secret} {text another : String}
    (gives : secret.Gives environment text) (alsoGives : secret.Gives environment another) :
    text = another := by
  cases gives with
  | plain =>
      cases alsoGives
      rfl
  | held held =>
      cases alsoGives with
      | held alsoHeld => exact Variable.text.inj (held.symm.trans alsoHeld)

theorem missingFields_eq_nil_iff {credentials : Credentials} :
    credentials.missingFields = [] ↔
      ¬(credentials.host = "" ∨ credentials.database = "" ∨ credentials.user = "") := by
  simp [Credentials.missingFields]

/-- A pool with some capacity is refused exactly if a required field is empty.  Making it panics
exactly if none is and the largest buffer is too small for that many connections. -/
theorem outcome_create {Connection Handshake : Type} {connectionSize capacity : Nat}
    (enough : 1 ≤ capacity) {credentials : Credentials} :
    let lacking := credentials.host = "" ∨ credentials.database = "" ∨ credentials.user = ""
    let made : Except CreationFailure (Pool Connection Handshake) :=
      Pool.create connectionSize capacity credentials
    ((∃ failure, made = .error (.refused failure)) ↔ lacking) ∧
      (made = .error (.panicked .capacityOverflow) ↔
        ¬lacking ∧ largestBuffer < capacity * connectionSize) := by
  intro lacking made
  have creation : Pool.Creation connectionSize capacity credentials made :=
    Pool.creation_create connectionSize capacity credentials
  clear_value made
  have complete : credentials.missingFields = [] ↔ ¬lacking := missingFields_eq_nil_iff
  cases creation with
  | refused unusable =>
      rw [and_iff_right enough, complete, Classical.not_not] at unusable
      exact ⟨⟨fun _ => unusable, fun _ => ⟨_, rfl⟩⟩, nofun, fun usable => absurd unusable usable.1⟩
  | panicked usable exceeds =>
      have filled := complete.mp usable.2
      exact ⟨⟨nofun, fun empty => absurd empty filled⟩, fun _ => ⟨filled, exceeds⟩, fun _ => rfl⟩
  | created usable fits =>
      have filled := complete.mp usable.2
      refine ⟨⟨nofun, fun empty => absurd empty filled⟩, nofun, ?_⟩
      rintro ⟨_, exceeds⟩
      exact absurd fits (Nat.not_le_of_lt exceeds)

/-- A document makes a runtime configuration exactly if it is usable: host, database and user have a
text, a password, a role and a port may be missing, the port is absent, empty or a number of sixteen
bits, and the sizes are within their bounds.  The configuration holds the texts of the settings,
the default port of the vendor where there is none, and an empty password and role where those are
missing.  Environments that agree on the variables of the document give the same outcome.  A pool of
that size with these credentials is refused exactly if the text of the host, the database or the
user is empty.  With texts there the program still panics exactly if its connections, each of some
number of octets, take more than the largest buffer. -/
theorem documents_resolve_exactly_when_usable (environment : Environment) (document : Document)
    (Connection Handshake : Type) (connectionSize : Nat) :
    ((∃ runtime, document.resolve environment = .ok runtime) ↔ document.Usable environment) ∧
    (∀ runtime, document.resolve environment = .ok runtime →
      document.Yields environment runtime) ∧
    (∀ other : Environment, (∀ name ∈ document.variableNames, environment name = other name) →
      document.resolve environment = document.resolve other) ∧
    (∀ runtime, document.resolve environment = .ok runtime →
      let lacking := document.connection.host.Gives environment "" ∨
        document.connection.database.Gives environment "" ∨
        document.connection.user.Gives environment ""
      let capacity := document.pool.connections.toNat
      let made : Except CreationFailure (Pool Connection Handshake) :=
        Pool.create connectionSize runtime.pool.connections.toNat runtime.credentials
      ((∃ failure, made = .error (.refused failure)) ↔ lacking) ∧
      (made = .error (.panicked .capacityOverflow) ↔
        ¬lacking ∧ largestBuffer < capacity * connectionSize)) := by
  refine ⟨Document.exists_resolve_iff, ?yields, fun other => Document.resolve_congr, ?pool⟩
  case yields =>
    intro runtime resolved
    exact (Document.resolve_eq_ok_iff.mp resolved).2
  case pool =>
    intro runtime resolved
    obtain ⟨sized, yields⟩ := Document.resolve_eq_ok_iff.mp resolved
    have empty {secret : Secret} {text : String} (gives : secret.Gives environment text) :
        secret.Gives environment "" ↔ text = "" := by
      constructor
      · exact gives.unique
      · rintro rfl
        exact gives
    rw [empty yields.host, empty yields.database, empty yields.user, yields.pool]
    exact outcome_create sized.connections

/-- The initial document takes everything from variables.  With a port after a plus sign, neither a
password nor a role, and an empty user it resolves, whatever else is set, and a pool for the outcome
is refused. -/
theorem documents_resolve_exactly_when_usable_from_variables :
    let environment := Environment.ofList [("DB_HOST", .text "db"), ("DB_PORT", .text "+06543"),
      ("DB_DATABASE", .text "ledger"), ("DB_USER", .text "")]
    let other : Environment := fun name =>
      if name = "HOME" then .notText [0xff] else environment name
    ∃ runtime, Document.initial.resolve environment = .ok runtime ∧
      Document.initial.resolve other = .ok runtime ∧ Document.initial.Yields environment runtime ∧
      ∃ failure, (Pool.create Rehearsal.connectionSize runtime.pool.connections.toNat
        runtime.credentials : Except CreationFailure (Pool Unit Unit)) =
          .error (.refused failure) := by
  intro environment other
  obtain ⟨accepts, yields, agrees, pools⟩ := documents_resolve_exactly_when_usable environment
    .initial Unit Unit Rehearsal.connectionSize
  have port : WritesPort "+06543" 6543 :=
    ⟨"06543".toList, .inr rfl, by decide, List.all_eq_true.mp (by decide), by decide, by decide⟩
  have usable : Document.initial.Usable environment :=
    { host := ⟨"db", .held rfl⟩
      database := ⟨"ledger", .held rfl⟩
      user := ⟨"", .held rfl⟩
      password := ⟨none, .unset rfl⟩
      role := ⟨none, .unset rfl⟩
      port := ⟨_, .given (.held rfl), _, .written port⟩
      sized := ⟨by decide, by decide, by decide, by decide⟩ }
  have agree : ∀ name ∈ Document.initial.variableNames, environment name = other name := by
    intro name member
    have different : name ≠ "HOME" := by
      rintro rfl
      exact absurd member (by decide)
    exact (if_neg different).symm
  obtain ⟨runtime, resolved⟩ := accepts.mpr usable
  refine ⟨runtime, resolved, (agrees other agree).symm.trans resolved, yields runtime resolved, ?_⟩
  exact (pools runtime resolved).1.mpr (.inr (.inr (.held rfl)))

/-- As many connections as a number of 64 bits can tell are within the bounds of a document.  It
resolves, no required text is empty, and yet making the pool panics. -/
theorem resolved_pool_panics :
    let secret := Secret.plain
    let document : Document := { Document.initial with
      connection := ⟨secret "db", none, secret "ledger", secret "app", none, none⟩
      pool := { Document.initial.pool with connections := 18446744073709551615 } }
    ∃ runtime, document.resolve (.ofList []) = .ok runtime ∧
      runtime.credentials.missingFields = [] ∧ runtime.pool.connections = 18446744073709551615 ∧
      (Pool.create Rehearsal.connectionSize runtime.pool.connections.toNat runtime.credentials :
        Except CreationFailure (Pool Unit Unit)) = .error (.panicked .capacityOverflow) := by
  intro secret document
  have sized : document.Sized := ⟨by decide, by decide, by decide, by decide⟩
  have usable : document.Usable (.ofList []) :=
    { host := ⟨"db", .plain _⟩
      database := ⟨"ledger", .plain _⟩
      user := ⟨"app", .plain _⟩
      password := ⟨none, .absent⟩
      role := ⟨none, .absent⟩
      port := ⟨none, .absent, _, .absent⟩
      sized := sized }
  obtain ⟨runtime, resolved⟩ := Document.exists_resolve_iff.mpr usable
  have yields := (Document.resolve_eq_ok_iff.mp resolved).2
  have filled : runtime.credentials.missingFields = [] := by
    rw [missingFields_eq_nil_iff, yields.host.unique (.plain "db"),
      yields.database.unique (.plain "ledger"), yields.user.unique (.plain "app")]
    decide
  refine ⟨runtime, resolved, filled, by rw [yields.pool], ?_⟩
  rw [yields.pool, (outcome_create sized.connections).2]
  exact ⟨missingFields_eq_nil_iff.mp filled, by decide⟩

end BankLedger.Settings
