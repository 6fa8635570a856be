import StorageTrace.Metric
import StorageTrace.Pipeline

/-! # The monitor

The monitor puts a bounded queue in front of the pipeline and keeps the metrics. Events that find the
queue full are dropped and counted. Once started, the monitor works the queue off, and at the end of
each interval it sweeps the pending starts and runs a cycle. A monitor is started once; after it has
been stopped it takes nothing in.
-/

namespace StorageTrace

/-- A pipeline with its queue and its metrics. -/
structure Monitor where
  scope : String
  capacity : Nat
  pipeline : Pipeline
  metrics : Registry Nat
  queue : List Event := []
  started : Bool := false
  stopped : Bool := false

/-- Why a monitor cannot be started. -/
inductive MonitorError where
  | alreadyStarted
  deriving DecidableEq, Repr, Inhabited

namespace MonitorError

def message : MonitorError → String
  | .alreadyStarted => "storage monitor already started"

end MonitorError

namespace Monitor

/-- The label values of the series of completed operations, in the order of the stages. -/
def stageSeries : List String := Stage.all.map Stage.name

/-- A monitor that is not started. It shows a series for every stage from the beginning. -/
def new (config : Config) (metrics : Registry Nat) : Monitor :=
  { scope := config.directory.scope
    capacity := config.monitor.channelCapacity
    pipeline := Pipeline.new config
    metrics := stageSeries.foldl
      (fun metrics label => metrics.add .operationsCompleted label 0) metrics }

def running (monitor : Monitor) : Bool := monitor.started && !monitor.stopped

/-- The view of the last cycle. -/
def view (monitor : Monitor) : View := monitor.pipeline.analyzer.view

/-- How many events have been dropped. -/
def dropped (monitor : Monitor) : Nat := monitor.metrics.value .eventsDropped

/-- Counts a completed operation in the series at the place of its stage. -/
def countCompleted (metrics : Registry Nat) (operation : Operation) : Registry Nat :=
  match stageSeries[operation.stage.index]? with
  | some label => metrics.add .operationsCompleted label 1
  | none => metrics

/-- Every stage has a series, and it is the one with its name. -/
theorem countCompleted_eq (metrics : Registry Nat) (operation : Operation) :
    countCompleted metrics operation =
      metrics.add .operationsCompleted operation.stage.name 1 := by
  simp [countCompleted, stageSeries]

/-- Takes one event through the pipeline and counts the operation that it completes. -/
def take (monitor : Monitor) (event : Event) : Monitor :=
  let (pipeline, operation) := monitor.pipeline.process event
  { monitor with
    pipeline
    metrics := operation.toList.foldl countCompleted monitor.metrics }

/-- Works the queue off. -/
def work (monitor : Monitor) : Monitor :=
  if monitor.running then monitor.queue.foldl take { monitor with queue := [] } else monitor

/-- Puts one event into the queue, or drops it if the queue is full. Once a running monitor has been
stopped, events vanish. -/
def offer (monitor : Monitor) (event : Event) : Monitor :=
  if monitor.started && monitor.stopped then monitor
  else if monitor.queue.length < monitor.capacity then
    { monitor with queue := monitor.queue ++ [event] }
  else { monitor with metrics := monitor.metrics.add .eventsDropped "" 1 }

def offerAll (monitor : Monitor) (events : List Event) : Monitor := events.foldl offer monitor

/-- Drops the starts that have waited too long and shows how many are left. -/
def sweep (monitor : Monitor) : Monitor :=
  let (pipeline, _) := monitor.pipeline.sweep
  { monitor with
    pipeline
    metrics := monitor.metrics.set .pendingStarts "" pipeline.pendingCount }

/-- Starts a monitor. The index is seeded from the directory where that can be listed. -/
def start (monitor : Monitor) (directory : Directory) : Except MonitorError Monitor :=
  if monitor.started then .error .alreadyStarted
  else
    let pipeline :=
      match directory.list monitor.scope with
      | .ok listed => monitor.pipeline.refresh listed
      | .error _ => monitor.pipeline
    let seeded :=
      { monitor with
        started := true
        pipeline
        metrics := monitor.metrics.set .eventChannelCapacity "" monitor.capacity }
    .ok (if seeded.stopped then seeded else seeded.sweep.work)

/-- Stops a monitor. -/
def stop (monitor : Monitor) : Monitor := { monitor with stopped := true }

/-- Adds drained outcomes to the counters. -/
def countOutcomes (metrics : Registry Nat) (counts : OutcomeCounts) : Registry Nat :=
  [(Metric.completionsUnmatched, counts.unmatched), (.startsExpired, counts.expired),
    (.startsOverflowed, counts.overflow), (.startsReplaced, counts.replaced),
    (.operationsUnattributed, counts.unattributed), (.operationsSkewed, counts.skewed)].foldl
    (fun metrics (metric, count) => metrics.add metric "" count.toNat) metrics

/-- Shows the sizes of a view. -/
def showSummary (metrics : Registry Nat) (summary : Summary) : Registry Nat :=
  summary.bottlenecks.foldl
    (fun metrics (kind, count) => metrics.set .entitiesByBottleneck kind.name count)
    ((metrics.set .entitiesTracked "" summary.entities).set .anomaliesActive "" summary.anomalies)

/-- Runs one cycle. One whose listing fails is skipped and leaves all but its count as it was. -/
def cycle (monitor : Monitor) (directory : Directory) (clock : Duration) (now : Instant) :
    Monitor × Except ListingError CycleReport :=
  match monitor.pipeline.cycle directory monitor.scope clock now with
  | (pipeline, .error cause) =>
    ({ monitor with pipeline, metrics := monitor.metrics.add .cyclesSkipped "" 1 }, .error cause)
  | (pipeline, .ok report) =>
    let (counts, pipeline) := pipeline.drain
    let counted := countOutcomes (monitor.metrics.add .cyclesTotal "" 1) counts
    ({ monitor with
        pipeline
        metrics := showSummary counted pipeline.analyzer.view.summary }, .ok report)

/-- What happens at the end of an interval: a sweep, then a cycle. Tells whether the cycle was
skipped. A monitor that does not run lets the interval pass. -/
def tick (monitor : Monitor) (directory : Directory) (clock : Duration) (now : Instant) :
    Monitor × Bool :=
  if monitor.running then
    match monitor.sweep.cycle directory clock now with
    | (monitor, .error _) => (monitor, true)
    | (monitor, .ok _) => (monitor, false)
  else (monitor, false)

end Monitor

/-- What a view says about one entity. -/
structure EntityState where
  snapshot : Snapshot
  bottleneck : Bottleneck
  anomaly : Bool
  historyLength : Nat

namespace Monitor

/-- What the view says about every entity, in ascending order of names. -/
def entityStates (monitor : Monitor) : List EntityState :=
  monitor.view.latest.sorted.map fun (entity, snapshot) =>
    { snapshot
      bottleneck := monitor.view.bottleneck entity
      anomaly := monitor.view.anomaly entity
      historyLength := monitor.pipeline.analyzer.history.length entity }

end Monitor

end StorageTrace
