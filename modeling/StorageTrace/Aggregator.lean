import StorageTrace.Entity
import StorageTrace.Names
import StorageTrace.Snapshot
import StorageTrace.Window

/-! # Aggregation

Once a cycle the sums of a window become snapshots, one for every entity that is listed or active.
Rates divide counts by the time that the window was open. A slot without operations shows what the
entity's snapshot of the cycle before showed, or zero; an entity that is neither listed nor active
for one cycle is forgotten.
-/

namespace StorageTrace

/-- What a slot shows when nothing completed in it. -/
inductive IdleLatency where
  | retain
  | reset
  deriving DecidableEq, Repr, Inhabited

namespace IdleLatency

def name : IdleLatency → String
  | .retain => "retain"
  | .reset => "reset"

def ofName? : String → Option IdleLatency
  | "retain" => some .retain
  | "reset" => some .reset
  | _ => none

end IdleLatency

/-- The divisor of rates: the elapsed seconds, or one second when less than a millisecond passed. -/
def rateSeconds (elapsed : Duration) : Float :=
  let seconds := elapsed.toSeconds
  if seconds < 0.001 then 1.0 else seconds

/-- What aggregation keeps from one cycle to the next. -/
structure Aggregator where
  idle : IdleLatency := .retain
  defaultNamespace : String := "default"
  carry : Table String (PerSlot UInt64) := Table.empty

namespace Aggregator

/-- The entities of a cycle: all that are listed or in the window, in ascending order. -/
def present (window : List (String × EntityTotals)) (listed : List EntityInfo) : List String :=
  Names.ascending (listed.map (·.name) ++ window.map Prod.fst)

/-- The sums of an entity; of several entries the last one counts. -/
def totalsOf (window : List (String × EntityTotals)) (entity : String) : EntityTotals :=
  match window.reverse.find? fun entry => entry.1 = entity with
  | some entry => entry.2
  | none => PerSlot.fill {}

/-- The namespace that the first listing of an entity gives. -/
def namespaceOf (aggregator : Aggregator) (listed : List EntityInfo) (entity : String) : String :=
  match listed.find? fun info => info.name = entity with
  | some info => info.namespaceName
  | none => aggregator.defaultNamespace

/-- The latencies carried over for an entity. -/
def priorOf (aggregator : Aggregator) (entity : String) : PerSlot UInt64 :=
  (aggregator.carry.find? entity).getD (PerSlot.fill 0)

/-- The latencies that an entity shows after a cycle. -/
def latencies (aggregator : Aggregator) (totals : EntityTotals) (entity : String) : PerSlot UInt64 :=
  PerSlot.ofFn fun slot =>
    if (totals.get slot).operations ≠ 0 then (totals.get slot).lastLatency
    else
      match aggregator.idle with
      | .retain => (aggregator.priorOf entity).get slot
      | .reset => 0

/-- The snapshot of one entity. -/
def snapshot (aggregator : Aggregator) (window : List (String × EntityTotals))
    (listed : List EntityInfo) (elapsed : Duration) (now : Instant) (entity : String) : Snapshot :=
  let totals := totalsOf window entity
  let latency := aggregator.latencies totals entity
  let seconds := rateSeconds elapsed
  { entity
    namespaceName := aggregator.namespaceOf listed entity
    readLatency := latency.read
    writeLatency := latency.write
    queueLatency := latency.queue
    diskLatency := latency.disk
    networkLatency := latency.network
    readRate := .ofFloat (totals.read.operations.toFloat / seconds)
    writeRate := .ofFloat (totals.write.operations.toFloat / seconds)
    readThroughput := .ofFloat (totals.read.bytes.toFloat / seconds)
    writeThroughput := .ofFloat (totals.write.bytes.toFloat / seconds)
    timestamp := now }

/-- The snapshots of a cycle, and what is carried on to the next. -/
def aggregate (aggregator : Aggregator) (window : List (String × EntityTotals))
    (listed : List EntityInfo) (elapsed : Duration) (now : Instant) : List Snapshot × Aggregator :=
  let entities := present window listed
  let carried := entities.map fun entity =>
    (entity, aggregator.latencies (totalsOf window entity) entity)
  (entities.map (aggregator.snapshot window listed elapsed now),
    { aggregator with carry := Table.ofList carried })

/-- How many entities carry latencies. -/
def tracked (aggregator : Aggregator) : Nat := aggregator.carry.size

end Aggregator

end StorageTrace
