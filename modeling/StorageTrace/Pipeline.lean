import StorageTrace.Collector
import StorageTrace.Config

/-! # From events to the published view

Events flow through the collector into the window in use. A cycle lists the entities, puts an empty
window in place of the one in use, turns the sums of the old window into snapshots, retires the
entities that have none, and publishes the results. A cycle whose listing fails changes nothing, so
the window goes on filling until the next cycle. How long a window is open is told by a clock that
never goes back and counts from the opening of the first one.
-/

namespace StorageTrace

/-- Everything between an event and the published view. -/
structure Pipeline where
  collector : Collector
  window : Window := {}
  aggregator : Aggregator
  analyzer : Analyzer

/-- What one cycle found. -/
structure CycleReport where
  snapshots : List Snapshot
  retired : Nat
  deriving Inhabited

namespace Pipeline

/-- A pipeline that has seen nothing. -/
def new (config : Config) : Pipeline :=
  { collector :=
      { correlator :=
          Correlator.new config.correlator.pendingHorizon config.correlator.maxPending }
    aggregator :=
      { idle := config.monitor.idleLatency
        defaultNamespace := config.monitor.defaultNamespace }
    analyzer := Analyzer.new config.analyzer }

/-- Takes in one event and gives the operation that it completes, if any. -/
def process (pipeline : Pipeline) (event : Event) : Pipeline × Option Operation :=
  let (collector, window, operation) := pipeline.collector.process pipeline.window event
  ({ pipeline with collector, window }, operation)

/-- Drops the starts that have waited too long, and tells how many they were. -/
def sweep (pipeline : Pipeline) : Pipeline × Nat :=
  let (collector, dropped) := pipeline.collector.sweep
  ({ pipeline with collector }, dropped)

/-- How many starts are waiting. -/
def pendingCount (pipeline : Pipeline) : Nat := pipeline.collector.correlator.pending.size

/-- Replaces the index by that of a listing. -/
def refresh (pipeline : Pipeline) (listed : List EntityInfo) : Pipeline :=
  { pipeline with collector := pipeline.collector.refresh listed }

/-- The outcomes counted so far, and the pipeline with its counts back at zero. -/
def drain (pipeline : Pipeline) : OutcomeCounts × Pipeline :=
  let (counts, collector) := pipeline.collector.drain
  (counts, { pipeline with collector })

/-- Rotates the window and publishes what the old one held, as rates over the time that it was open. -/
def publish (pipeline : Pipeline) (listed : List EntityInfo) (clock : Duration) (now : Instant) :
    Pipeline × CycleReport :=
  let elapsed := clock.since pipeline.window.opened
  let (snapshots, aggregator) :=
    pipeline.aggregator.aggregate pipeline.window.totals listed elapsed now
  let present := snapshots.map (·.entity)
  let (retained, retired) := pipeline.analyzer.retain fun entity => present.contains entity
  ({ pipeline with
      window := { opened := clock }
      aggregator
      analyzer := retained.applyCycle snapshots },
    { snapshots, retired })

/-- Runs one cycle over what a directory lists. -/
def cycle (pipeline : Pipeline) (directory : Directory) (scope : String) (clock : Duration)
    (now : Instant) : Pipeline × Except ListingError CycleReport :=
  match directory.list scope with
  | .error cause => (pipeline, .error cause)
  | .ok listed =>
    let (pipeline, report) := (pipeline.refresh listed).publish listed clock now
    (pipeline, .ok report)

end Pipeline

end StorageTrace
