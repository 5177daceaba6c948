/-!
# Metrics

Three counters and two gauges describe a pool and the queries that ran on it.  They are published
together with other metrics in a registry, in which every name stands once: registration goes in
order and stops at the first name that is taken.
-/

namespace BankLedger.Database

/-- Whether a published value only grows. -/
inductive FamilyKind
  | counter
  | gauge
deriving DecidableEq

/-- The name of a kind of metric. -/
def FamilyKind.name : FamilyKind → String
  | .counter => "counter"
  | .gauge => "gauge"

/-- A published metric. -/
structure Family where
  name : String
  help : String
  kind : FamilyKind
  value : Nat
deriving DecidableEq

namespace Family

/-- A character of a help text, which has to stay on one line. -/
def escapeHelp : Char → List Char
  | '\\' => ['\\', '\\']
  | '\n' => ['\\', 'n']
  | character => [character]

/-- The three lines that publish a metric. -/
def text (family : Family) : String :=
  let help := String.ofList (family.help.toList.flatMap escapeHelp)
  s!"# HELP {family.name} {help}\n# TYPE {family.name} {family.kind.name}\n" ++
    s!"{family.name} {family.value}\n"

end Family

/-- Why metrics cannot be published. -/
inductive MetricsFailure
  | nameTaken
  | other (reason : String)
deriving DecidableEq

/-- The wording of a failure. -/
def MetricsFailure.message : MetricsFailure → String
  | .nameTaken => "Duplicate metrics collector registration attempted"
  | .other reason => s!"Error: {reason}"

/-- The published metrics. -/
abbrev Registry := List Family

namespace Registry

/-- Whether a name is taken. -/
def hasName (registry : Registry) (name : String) : Bool :=
  registry.any fun family => family.name == name

/-- Some metrics added in order, up to the first whose name is taken. -/
def extend (registry families : Registry) : Registry :=
  registry ++ families.takeWhile fun family => !registry.hasName family.name

/-- Whether a name of some metrics is taken. -/
def clashes (registry families : Registry) : Bool :=
  families.any fun family => registry.hasName family.name

/-- The published text, in the order of the names. -/
def text (registry : Registry) : String :=
  String.join ((registry.mergeSort fun left right => left.name ≤ right.name).map Family.text)

end Registry

/-- What is counted and measured about a pool. -/
structure Metrics where
  queries : Nat
  queryFailures : Nat
  acquireFailures : Nat
  capacity : Nat
  available : Nat
deriving DecidableEq

namespace Metrics

/-- Nothing counted or measured yet. -/
def initial : Metrics :=
  ⟨0, 0, 0, 0, 0⟩

/-- The largest value of a gauge. -/
def gaugeLimit : Nat :=
  0x7fffffffffffffff

/-- The gauges set to a capacity and a number of available connections. -/
def record (capacity available : Nat) (metrics : Metrics) : Metrics :=
  { metrics with capacity := min capacity gaugeLimit, available := min available gaugeLimit }

/-- An attempt to take a connection that found none. -/
def countAcquireFailure (metrics : Metrics) : Metrics :=
  { metrics with acquireFailures := metrics.acquireFailures + 1 }

/-- A query that was dispatched, and that failed or not. -/
def countQuery (failed : Bool) (metrics : Metrics) : Metrics :=
  { metrics with
    queries := metrics.queries + 1
    queryFailures := metrics.queryFailures + failed.toNat }

/-- The metrics as they are published, in the order of their registration. -/
def families (metrics : Metrics) : Registry :=
  [⟨"ledger_query_total", "Total queries dispatched to the database.", .counter,
      metrics.queries⟩,
    ⟨"ledger_query_failures_total", "Total queries whose result carried an error status.",
      .counter, metrics.queryFailures⟩,
    ⟨"ledger_pool_acquire_failures_total",
      "Total times no connection could be taken from the pool within the retry budget.",
      .counter, metrics.acquireFailures⟩,
    ⟨"ledger_pool_capacity", "The number of connections the pool maintains.", .gauge,
      metrics.capacity⟩,
    ⟨"ledger_pool_available", "The number of connections established and not lent out.", .gauge,
      metrics.available⟩]

end Metrics

end BankLedger.Database
