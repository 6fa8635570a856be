import StorageTrace.Pipeline
import StorageTrace.Proofs.Aggregation.Round
import StorageTrace.Proofs.Analysis.View
import StorageTrace.Proofs.Window.Totals

/-! # Runs of cycles

Each cycle takes the window that has filled, whatever is in it, and a listing. What a cycle does about an
entity goes by what the pipeline holds of that entity: an entity of the cycle has its history extended by
its one snapshot, and of anybody else nothing is held any more.
-/

namespace StorageTrace

/-- What one cycle is given. -/
structure Cycle where
  window : Window
  listed : List EntityInfo
  clock : Duration
  now : Instant

namespace Cycle

/-- How long the window has been open. -/
def elapsed (cycle : Cycle) : Duration := cycle.clock.since cycle.window.opened

/-- The entity is listed or has completed something in the window. -/
def Present (cycle : Cycle) (entity : String) : Prop :=
  entity ∈ cycle.listed.map (·.name) ∨ entity ∈ cycle.window.counters.keys

instance (cycle : Cycle) (entity : String) : Decidable (cycle.Present entity) :=
  inferInstanceAs (Decidable (_ ∨ _))

/-- What the aggregator is handed in the cycle. -/
def round (cycle : Cycle) : Round where
  window := cycle.window.totals
  distinct := cycle.window.perm_names_totals.nodup_iff.2 cycle.window.counters.distinct
  listed := cycle.listed
  elapsed := cycle.elapsed
  now := cycle.now

theorem present_round_iff (cycle : Cycle) (entity : String) :
    cycle.round.Present entity ↔ cycle.Present entity :=
  or_congr_right cycle.window.perm_names_totals.mem_iff

/-- The snapshot that an aggregator makes of an entity in the cycle. -/
def snapshot (cycle : Cycle) (aggregator : Aggregator) (entity : String) : Snapshot :=
  aggregator.snapshot cycle.window.totals cycle.listed cycle.elapsed cycle.now entity

end Cycle

namespace Pipeline

/-- One cycle, once the window of the pipeline has become the given one. -/
def turn (pipeline : Pipeline) (cycle : Cycle) : Pipeline × CycleReport :=
  ({ pipeline with window := cycle.window }).publish cycle.listed cycle.clock cycle.now

/-! ## What a cycle does -/

theorem snapshots_turn (pipeline : Pipeline) (cycle : Cycle) :
    (pipeline.turn cycle).2.snapshots = (pipeline.aggregator.answer cycle.round).1 := rfl

theorem aggregator_turn (pipeline : Pipeline) (cycle : Cycle) :
    (pipeline.turn cycle).1.aggregator = (pipeline.aggregator.answer cycle.round).2 := rfl

theorem analyzer_turn (pipeline : Pipeline) (cycle : Cycle) :
    let snapshots := (pipeline.turn cycle).2.snapshots
    (pipeline.turn cycle).1.analyzer =
      (pipeline.analyzer.retain fun entity => (snapshots.map (·.entity)).contains entity).1.applyCycle
        snapshots := rfl

/-- An entity of the cycle is reported once, and anybody else not at all. -/
theorem filter_snapshots_turn (pipeline : Pipeline) (cycle : Cycle) (entity : String) :
    (pipeline.turn cycle).2.snapshots.filter (·.entity = entity) =
      if cycle.Present entity then [cycle.snapshot pipeline.aggregator entity] else [] := by
  rw [snapshots_turn, Aggregator.filter_answer]
  simp only [cycle.present_round_iff]
  rfl

theorem find?_carry_turn (pipeline : Pipeline) (cycle : Cycle) (entity : String) :
    (pipeline.turn cycle).1.aggregator.carry.find? entity =
      if cycle.Present entity then
        some (pipeline.aggregator.latencies (Aggregator.totalsOf cycle.window.totals entity) entity)
      else none := by
  rw [aggregator_turn, Aggregator.find?_carry_answer]
  simp only [cycle.present_round_iff]
  rfl

/-- The history of an entity of the cycle is extended by its snapshot, that of anybody else dropped. -/
theorem all_turn (pipeline : Pipeline) (cycle : Cycle) (entity : String) :
    (pipeline.turn cycle).1.analyzer.history.all entity =
      if cycle.Present entity then
        History.extend pipeline.analyzer.history.capacity (pipeline.analyzer.history.all entity)
          (cycle.snapshot pipeline.aggregator entity)
      else [] := by
  have reported : ((pipeline.turn cycle).2.snapshots.map (·.entity)).contains entity = true ↔
      cycle.Present entity := by
    rw [List.contains_iff_mem, snapshots_turn, Aggregator.mem_entities_answer, cycle.present_round_iff]
  have capacity := congrArg (fun kept => kept.2.2) (pipeline.analyzer.settled_retain fun entity =>
    ((pipeline.turn cycle).2.snapshots.map (·.entity)).contains entity)
  rw [analyzer_turn, Analyzer.all_applyCycle, Analyzer.all_retained, filter_snapshots_turn]
  simp only [Analyzer.settled] at capacity
  simp only [reported, capacity]
  split
  · rfl
  · rfl

/-! ## What a pipeline holds of an entity -/

/-- Everything that is held of one entity: the latencies carried over, the history, and the answers. -/
structure Standing where
  carried : Option (PerSlot UInt64)
  history : List Snapshot
  latest : Option Snapshot
  bottleneck : Option Bottleneck
  anomaly : Option Bool

/-- What the pipeline holds of an entity. -/
def standing (pipeline : Pipeline) (entity : String) : Standing where
  carried := pipeline.aggregator.carry.find? entity
  history := pipeline.analyzer.history.all entity
  latest := pipeline.analyzer.view.latest.find? entity
  bottleneck := pipeline.analyzer.view.bottlenecks.find? entity
  anomaly := pipeline.analyzer.view.anomalies.find? entity

/-- The pipeline has the policy and the settings of a configuration, and its view shows its history. -/
structure Follows (pipeline : Pipeline) (config : Config) : Prop where
  policy : pipeline.aggregator.policy = (config.monitor.idleLatency, config.monitor.defaultNamespace)
  settled : pipeline.analyzer.settled = (Thresholds.ofSettings config.analyzer.thresholds,
    config.analyzer.anomaly, max config.analyzer.historyCapacity 1)
  reflects : pipeline.analyzer.Reflects

namespace Follows

variable {config : Config} {pipeline left right : Pipeline}

theorem new (config : Config) : (Pipeline.new config).Follows config where
  policy := rfl
  settled := rfl
  reflects := Analyzer.Reflects.new config.analyzer

theorem turn (follows : pipeline.Follows config) (cycle : Cycle) :
    (pipeline.turn cycle).1.Follows config where
  policy := follows.policy
  settled := by
    rw [analyzer_turn, Analyzer.settled_applyCycle, Analyzer.settled_retain, follows.settled]
  reflects := (follows.reflects.retain _).applyCycle _

/-- With the same latencies carried over and the same history, everything held is the same. -/
theorem standing_congr (followsLeft : left.Follows config) (followsRight : right.Follows config)
    {entity : String}
    (carried : left.aggregator.carry.find? entity = right.aggregator.carry.find? entity)
    (history : left.analyzer.history.all entity = right.analyzer.history.all entity) :
    left.standing entity = right.standing entity := by
  have settled := followsLeft.settled.trans followsRight.settled.symm
  have thresholds : left.analyzer.thresholds = right.analyzer.thresholds := congrArg Prod.fst settled
  have anomaly : left.analyzer.anomaly = right.analyzer.anomaly :=
    congrArg (fun kept => kept.2.1) settled
  unfold standing
  rw [followsLeft.reflects.latest entity, followsRight.reflects.latest entity,
    followsLeft.reflects.bottlenecks entity, followsRight.reflects.bottlenecks entity,
    followsLeft.reflects.anomalies entity, followsRight.reflects.anomalies entity,
    carried, history, thresholds, anomaly]

/-- The latencies that an entity shows depend on what is carried over for that entity alone. -/
theorem latencies_congr (followsLeft : left.Follows config) (followsRight : right.Follows config)
    {entity : String}
    (carried : left.aggregator.carry.find? entity = right.aggregator.carry.find? entity)
    (totals : EntityTotals) :
    left.aggregator.latencies totals entity = right.aggregator.latencies totals entity := by
  have policy := followsLeft.policy.trans followsRight.policy.symm
  have idle : left.aggregator.idle = right.aggregator.idle := congrArg Prod.fst policy
  have prior : left.aggregator.priorOf entity = right.aggregator.priorOf entity := by
    rw [Aggregator.priorOf, Aggregator.priorOf, carried]
  rw [Aggregator.latencies, Aggregator.latencies, idle, prior]

/-- So does the snapshot of the entity. -/
theorem snapshot_congr (followsLeft : left.Follows config) (followsRight : right.Follows config)
    {entity : String}
    (carried : left.aggregator.carry.find? entity = right.aggregator.carry.find? entity)
    (cycle : Cycle) :
    cycle.snapshot left.aggregator entity = cycle.snapshot right.aggregator entity := by
  have policy := followsLeft.policy.trans followsRight.policy.symm
  have defaultNamespace : left.aggregator.defaultNamespace = right.aggregator.defaultNamespace :=
    congrArg Prod.snd policy
  have namespaceOf : left.aggregator.namespaceOf cycle.listed entity =
      right.aggregator.namespaceOf cycle.listed entity := by
    rw [Aggregator.namespaceOf, Aggregator.namespaceOf, defaultNamespace]
  have latencies := followsLeft.latencies_congr followsRight carried
    (Aggregator.totalsOf cycle.window.totals entity)
  rw [Cycle.snapshot, Cycle.snapshot, Aggregator.snapshot, Aggregator.snapshot, latencies, namespaceOf]

end Follows

end Pipeline

end StorageTrace
