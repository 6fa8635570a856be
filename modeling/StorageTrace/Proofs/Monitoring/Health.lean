import StorageTrace.Proofs.Analysis.View
import StorageTrace.Proofs.Correlation.Mishaps
import StorageTrace.Proofs.Intake.Counting

/-! # The health of a monitor that runs

Mishaps are counted by the correlator and move into the metrics when a cycle succeeds, completed
operations are counted at once, and the gauges are set from the view. At every point of a run a mishap is
either in its metric or still in its count, every operation is in the series of its stage, and the gauges
tell of the view.
-/

namespace StorageTrace

theorem Stage.name_inj {stage other : Stage} : stage.name = other.name ↔ stage = other := by
  cases stage <;> cases other <;> decide

namespace Mishap

/-- The mishaps in the order in which their counts are exported. -/
def all : List Mishap := [.unmatched, .expired, .overflow, .replaced, .unattributed, .skewed]

/-- The metric that a mishap ends up in. -/
def metric : Mishap → Metric
  | .unmatched => .completionsUnmatched
  | .expired => .startsExpired
  | .overflow => .startsOverflowed
  | .replaced => .startsReplaced
  | .unattributed => .operationsUnattributed
  | .skewed => .operationsSkewed

end Mishap

/-- A count that wraps exceeds the old one by no more than what was added. -/
theorem toNat_add_ofNat_le (count : UInt64) (more : Nat) :
    (count + UInt64.ofNat more).toNat ≤ count.toNat + more := by
  rw [UInt64.toNat_add, UInt64.toNat_ofNat']
  have wrapped := Nat.mod_le (count.toNat + more % 2 ^ 64) (2 ^ 64)
  have part := Nat.mod_le more (2 ^ 64)
  omega

/-! ## What the metrics say after each change -/

namespace Registry

variable (metrics : Registry Nat)

/-- Draining adds the count of each mishap to its metric. -/
theorem countOutcomes_eq (counts : OutcomeCounts) :
    Monitor.countOutcomes metrics counts =
      Mishap.all.foldl
        (fun metrics mishap => metrics.add mishap.metric "" (mishap.counted counts).toNat) metrics := rfl

/-- Each metric takes in the one count that is its own. -/
theorem value_countOutcomes (counts : OutcomeCounts) (mishap : Mishap) :
    (Monitor.countOutcomes metrics counts).value mishap.metric =
      metrics.value mishap.metric + (mishap.counted counts).toNat := by
  rw [countOutcomes_eq]
  cases mishap <;> simp [Mishap.all, value_add, Mishap.metric]

theorem value_countOutcomes_of_ne (counts : OutcomeCounts) {metric : Metric}
    (other : ∀ mishap : Mishap, metric ≠ mishap.metric) (label : String) :
    (Monitor.countOutcomes metrics counts).value metric label = metrics.value metric label := by
  rw [countOutcomes_eq]
  induction Mishap.all generalizing metrics with
  | nil => rfl
  | cons mishap rest ih =>
    rw [List.foldl_cons, ih, value_add, if_neg fun same => other mishap same.1, Nat.add_zero]

/-- An operation goes into the series of its stage. -/
theorem value_foldl_countCompleted (completed : Option Operation) (metric : Metric) (label : String) :
    (completed.toList.foldl Monitor.countCompleted metrics).value metric label =
      metrics.value metric label +
        completed.toList.countP fun operation =>
          metric = .operationsCompleted ∧ label = operation.stage.name := by
  cases completed with
  | none => rfl
  | some operation =>
    rw [Option.toList_some, List.foldl_cons, List.foldl_nil, Monitor.countCompleted_eq, value_add,
      List.countP_singleton]
    simp only [decide_eq_true_eq]

/-- The gauges tell of a view. -/
structure Shows (metrics : Registry Nat) (view : View) : Prop where
  entities : metrics.value .entitiesTracked = view.latest.size
  anomalies : metrics.value .anomaliesActive = view.summary.anomalies
  bottlenecks : ∀ kind, metrics.value .entitiesByBottleneck kind.name =
    view.bottlenecks.values.countP fun found => found = kind

theorem shows_showSummary (view : View) : (Monitor.showSummary metrics view.summary).Shows view where
  entities := by simp [Monitor.showSummary, View.summary, Bottleneck.all, value_set]
  anomalies := by simp [Monitor.showSummary, View.summary, Bottleneck.all, value_set]
  bottlenecks kind := by
    cases kind <;> simp [Monitor.showSummary, View.summary, Bottleneck.all, Bottleneck.name, value_set]

theorem value_showSummary_of_ne (view : View) {metric : Metric}
    (entities : metric ≠ .entitiesTracked) (anomalies : metric ≠ .anomaliesActive)
    (bottlenecks : metric ≠ .entitiesByBottleneck) (label : String) :
    (Monitor.showSummary metrics view.summary).value metric label = metrics.value metric label := by
  simp [Monitor.showSummary, View.summary, Bottleneck.all, value_set, *]

/-- Every verdict has a series of its own once a view has been shown. -/
theorem mem_labels_showSummary (view : View) (kind : Bottleneck) :
    kind.name ∈ (Monitor.showSummary metrics view.summary).labels .entitiesByBottleneck := by
  rw [labels, Names.mem_ascending, List.mem_filterMap]
  refine ⟨(.entitiesByBottleneck, kind.name), ?_, if_pos rfl⟩
  rw [Table.mem_keys_iff]
  cases kind <;>
    simp [Monitor.showSummary, View.summary, Bottleneck.all, Bottleneck.name, set, Table.find?_insert]

end Registry

namespace Monitor

/-- Every operation is of one of the four stages. -/
theorem sum_stages (operations : List Operation) :
    (Stage.all.map fun stage => operations.countP fun operation => operation.stage = stage).sum =
      operations.length := by
  induction operations with
  | nil => rfl
  | cons operation rest ih =>
    simp only [Stage.all, List.map_cons, List.map_nil, List.sum_cons, List.sum_nil,
      List.countP_cons] at ih ⊢
    cases operation.stage with
    | syscall => simp; omega
    | queue => simp; omega
    | device => simp; omega
    | remote => simp; omega

/-- What goes wrong at a call. -/
def mishaps (monitor : Monitor) : Call → List Mishap
  | .take event =>
    let collector := monitor.pipeline.collector
    collector.correlator.mishaps (collector.index.assign event)
  | .sweep => monitor.pipeline.collector.correlator.sweepMishaps
  | .cycle _ _ _ => []

/-- What a call completes. -/
def emitted (monitor : Monitor) : Call → List Operation
  | .take event => (monitor.pipeline.process event).2.toList
  | .sweep | .cycle _ _ _ => []

/-- What the calls of a run bring about, in order. -/
def collect {α : Type} (brought : Monitor → Call → List α) (monitor : Monitor) : List Call → List α
  | [] => []
  | call :: rest => brought monitor call ++ collect brought (monitor.answer call) rest

/-- The counts that have not been drained yet. -/
def undrained (monitor : Monitor) : OutcomeCounts := monitor.pipeline.collector.correlator.counts

/-- The metrics and the counts of a monitor account for some mishaps and operations, and its gauges tell of
its view. -/
structure Healthy (monitor : Monitor) (mishaps : List Mishap) (emitted : List Operation) : Prop where
  noted : ∀ mishap : Mishap,
    UInt64.ofNat (monitor.metrics.value mishap.metric) + mishap.counted monitor.undrained =
      UInt64.ofNat (mishaps.count mishap)
  within : ∀ mishap : Mishap,
    monitor.metrics.value mishap.metric + (mishap.counted monitor.undrained).toNat ≤
      mishaps.count mishap
  completed : ∀ stage, monitor.metrics.value .operationsCompleted stage.name =
    emitted.countP fun operation => operation.stage = stage
  shows : monitor.metrics.Shows monitor.view
  reflects : monitor.pipeline.analyzer.Reflects

namespace Healthy

variable {monitor : Monitor} {mishaps : List Mishap} {emitted : List Operation}

theorem new (config : Config) : (Monitor.new config {}).Healthy [] [] where
  noted mishap := by cases mishap <;> rfl
  within mishap := by cases mishap <;> exact Nat.le_refl 0
  completed stage := by cases stage <;> rfl
  shows := ⟨rfl, rfl, fun kind => by cases kind <;> rfl⟩
  reflects := .new config.analyzer

/-- Between cycles mishaps add to the counts, operations to their series, and the view stays. -/
theorem advance (healthy : monitor.Healthy mishaps emitted) {next : Monitor} {more : List Mishap}
    {completed : List Operation}
    (analyzer : next.pipeline.analyzer = monitor.pipeline.analyzer)
    (notes : Correlator.Notes monitor.pipeline.collector.correlator
      next.pipeline.collector.correlator more)
    (metrics : ∀ metric label, metric ≠ .pendingStarts → metric ≠ .cyclesSkipped →
      next.metrics.value metric label =
        monitor.metrics.value metric label + completed.countP fun operation =>
          metric = .operationsCompleted ∧ label = operation.stage.name) :
    next.Healthy (mishaps ++ more) (emitted ++ completed) := by
  have unchanged (metric : Metric) (label : String) (sweeps : metric ≠ .pendingStarts)
      (skips : metric ≠ .cyclesSkipped) (completes : metric ≠ .operationsCompleted) :
      next.metrics.value metric label = monitor.metrics.value metric label := by
    rw [metrics metric label sweeps skips]
    simp [completes]
  have exported (mishap : Mishap) : next.metrics.value mishap.metric = monitor.metrics.value mishap.metric :=
    unchanged _ _ (by cases mishap <;> decide) (by cases mishap <;> decide) (by cases mishap <;> decide)
  refine ⟨?_, ?_, ?_, ?_, analyzer ▸ healthy.reflects⟩
  · intro mishap
    rw [exported, undrained, notes mishap, ← UInt64.add_assoc, List.count_append, UInt64.ofNat_add,
      ← healthy.noted mishap]
    rfl
  · intro mishap
    have before := healthy.within mishap
    have grows := toNat_add_ofNat_le (mishap.counted monitor.undrained) (more.count mishap)
    rw [exported, undrained, notes mishap, List.count_append]
    unfold undrained at before grows
    omega
  · intro stage
    rw [metrics _ _ (by decide) (by decide), healthy.completed, List.countP_append]
    simp [Stage.name_inj, eq_comm]
  · have view : next.view = monitor.view := congrArg Analyzer.view analyzer
    have shows := healthy.shows
    refine ⟨?_, ?_, ?_⟩
    · rw [unchanged _ _ (by decide) (by decide) (by decide), shows.entities, view]
    · rw [unchanged _ _ (by decide) (by decide) (by decide), shows.anomalies, view]
    · intro kind
      rw [unchanged _ _ (by decide) (by decide) (by decide), shows.bottlenecks, view]

theorem take (healthy : monitor.Healthy mishaps emitted) (event : Event) :
    (monitor.take event).Healthy (mishaps ++ monitor.mishaps (.take event))
      (emitted ++ monitor.emitted (.take event)) := by
  refine healthy.advance rfl (Correlator.notes_observe _ _) ?_
  intro metric label _ _
  exact monitor.metrics.value_foldl_countCompleted _ metric label

theorem sweep (healthy : monitor.Healthy mishaps emitted) :
    monitor.sweep.Healthy (mishaps ++ monitor.mishaps .sweep) (emitted ++ monitor.emitted .sweep) := by
  refine healthy.advance rfl (Correlator.notes_sweep _) ?_
  intro metric label other _
  exact (Registry.value_set _ _ _ _ _ _).trans (if_neg fun same => other same.1)

/-- A skipped cycle leaves the counts to the next one. -/
theorem skip (healthy : monitor.Healthy mishaps emitted) :
    Healthy { monitor with metrics := monitor.metrics.add .cyclesSkipped "" 1 } mishaps emitted := by
  have quiet : Correlator.Notes monitor.pipeline.collector.correlator
      monitor.pipeline.collector.correlator [] := fun mishap => by simp
  have skipped : Healthy { monitor with metrics := monitor.metrics.add .cyclesSkipped "" 1 }
      (mishaps ++ []) (emitted ++ []) := by
    refine healthy.advance rfl quiet ?_
    intro metric label _ other
    simp [Registry.value_add, other]
  simpa using skipped

/-- Where the counts are drained into the metrics and the gauges are set from a view, both are right. -/
theorem settle (healthy : monitor.Healthy mishaps emitted) {pipeline : Pipeline}
    (emptied : pipeline.collector.correlator.counts = {}) (reflects : pipeline.analyzer.Reflects) :
    Healthy
      { monitor with
        pipeline
        metrics := showSummary (countOutcomes (monitor.metrics.add .cyclesTotal "" 1) monitor.undrained)
          pipeline.analyzer.view.summary }
      mishaps emitted := by
  have drained (mishap : Mishap) : mishap.counted pipeline.collector.correlator.counts = 0 := by
    rw [emptied]
    cases mishap <;> rfl
  have exported (mishap : Mishap) :
      (showSummary (countOutcomes (monitor.metrics.add .cyclesTotal "" 1) monitor.undrained)
        pipeline.analyzer.view.summary).value mishap.metric =
      monitor.metrics.value mishap.metric + (mishap.counted monitor.undrained).toNat := by
    rw [Registry.value_showSummary_of_ne _ _ (by cases mishap <;> decide) (by cases mishap <;> decide)
      (by cases mishap <;> decide), Registry.value_countOutcomes, Registry.value_add]
    cases mishap <;> simp [Mishap.metric]
  refine ⟨?_, ?_, ?_, Registry.shows_showSummary _ _, reflects⟩
  · intro mishap
    change _ + mishap.counted pipeline.collector.correlator.counts = _
    rw [exported, drained, UInt64.add_zero, UInt64.ofNat_add, UInt64.ofNat_toNat]
    exact healthy.noted mishap
  · intro mishap
    change _ + (mishap.counted pipeline.collector.correlator.counts).toNat ≤ _
    rw [exported, drained]
    exact healthy.within mishap
  · intro stage
    have other : ∀ mishap : Mishap, Metric.operationsCompleted ≠ mishap.metric := fun mishap => by
      cases mishap <;> decide
    rw [Registry.value_showSummary_of_ne _ _ (by decide) (by decide) (by decide),
      Registry.value_countOutcomes_of_ne _ _ other, Registry.value_add, ← healthy.completed stage]
    simp

/-- A cycle that succeeds moves the counts into the metrics and shows the new view. -/
theorem cycle (healthy : monitor.Healthy mishaps emitted) {directory : Directory}
    {listed : List EntityInfo} (succeeded : directory.list monitor.scope = .ok listed)
    (clock : Duration) (now : Instant) :
    (monitor.cycle directory clock now).1.Healthy mishaps emitted := by
  rw [monitor.cycle_of_ok clock now succeeded]
  exact healthy.settle rfl ((healthy.reflects.retain _).applyCycle _)

/-- Every call adds what it brings about. -/
theorem answer (healthy : monitor.Healthy mishaps emitted) (call : Call) :
    (monitor.answer call).Healthy (mishaps ++ monitor.mishaps call)
      (emitted ++ monitor.emitted call) := by
  cases call with
  | take event => exact healthy.take event
  | sweep => exact healthy.sweep
  | cycle directory clock now =>
    change (monitor.cycle directory clock now).1.Healthy (mishaps ++ []) (emitted ++ [])
    rw [List.append_nil, List.append_nil]
    cases listing : directory.list monitor.scope with
    | error cause =>
      rw [monitor.cycle_of_error clock now listing]
      exact healthy.skip
    | ok listed => exact healthy.cycle listing clock now

theorem run (healthy : monitor.Healthy mishaps emitted) (calls : List Call) :
    (monitor.run calls).Healthy (mishaps ++ monitor.collect Monitor.mishaps calls)
      (emitted ++ monitor.collect Monitor.emitted calls) := by
  induction calls generalizing monitor mishaps emitted with
  | nil =>
    rw [collect, collect, List.append_nil, List.append_nil]
    exact healthy
  | cons call rest ih =>
    rw [collect, collect, ← List.append_assoc, ← List.append_assoc]
    exact ih (healthy.answer call)

end Healthy

/-- In every run every mishap so far is either in its metric or in the count that the next successful cycle
will drain, which wraps only after that many; every operation is in the series of its stage, and each series
has only those; and the gauges, every one of which a successful cycle brings out, tell of the current view, so that
the verdicts make up the entities tracked. -/
theorem metrics_account_for_run (config : Config) (calls : List Call) :
    let fresh := new config {}
    let monitor := fresh.run calls
    let mishaps := fresh.collect Monitor.mishaps calls
    let emitted := fresh.collect Monitor.emitted calls
    (∀ mishap : Mishap,
      let exported := monitor.metrics.value mishap.metric
      let waiting := mishap.counted monitor.undrained
      UInt64.ofNat exported + waiting = UInt64.ofNat (mishaps.count mishap) ∧
        (mishaps.count mishap < 2 ^ 64 → exported + waiting.toNat = mishaps.count mishap)) ∧
      (∀ stage, monitor.metrics.value .operationsCompleted stage.name =
        emitted.countP fun operation => operation.stage = stage) ∧
      (Stage.all.map fun stage => monitor.metrics.value .operationsCompleted stage.name).sum =
        emitted.length ∧
      (∀ kind, monitor.metrics.value .entitiesByBottleneck kind.name = monitor.view.tally kind) ∧
      (Bottleneck.all.map fun kind => monitor.metrics.value .entitiesByBottleneck kind.name).sum =
        monitor.metrics.value .entitiesTracked ∧
      monitor.metrics.value .entitiesTracked = monitor.view.latest.size ∧
      ∀ directory clock now listed, directory.list monitor.scope = .ok listed → ∀ kind : Bottleneck,
        kind.name ∈ (monitor.cycle directory clock now).1.metrics.labels .entitiesByBottleneck := by
  intro fresh monitor mishaps emitted
  have healthy : monitor.Healthy mishaps emitted := (Healthy.new config).run calls
  have tallies (kind : Bottleneck) :
      monitor.metrics.value .entitiesByBottleneck kind.name = monitor.view.tally kind :=
    (healthy.shows.bottlenecks kind).trans (healthy.reflects.countP_bottlenecks kind)
  refine ⟨?_, healthy.completed, ?_, tallies, ?_, healthy.shows.entities, ?_⟩
  · intro mishap exported waiting
    refine ⟨healthy.noted mishap, ?_⟩
    intro few
    -- below the size of a word the two agree modulo it only if they are the same
    have values := congrArg UInt64.toNat (healthy.noted mishap)
    have within := healthy.within mishap
    rw [UInt64.toNat_add, UInt64.toNat_ofNat', UInt64.toNat_ofNat'] at values
    unfold exported waiting
    omega
  · rw [← sum_stages emitted]
    exact congrArg List.sum (List.map_congr_left fun stage _ => healthy.completed stage)
  · rw [healthy.shows.entities]
    refine Eq.trans ?_ healthy.reflects.summary_entities.symm
    exact congrArg List.sum (List.map_congr_left fun kind _ => healthy.shows.bottlenecks kind)
  · intro directory clock now listed succeeded kind
    rw [monitor.cycle_of_ok clock now succeeded]
    exact Registry.mem_labels_showSummary _ _ kind

/-- A finish without a start and a request that completes, around a skipped cycle and one that succeeds,
and another lost finish. -/
def ailing : List Call :=
  [.take { probe := .blockComplete, timestamp := 5, handle := 7 },
    .take { probe := .remoteIssue, timestamp := 10, handle := 1, entity := some "db" },
    .cycle (.failing "orders" "unreachable") ⟨5⟩ ⟨100⟩,
    .take { probe := .remoteComplete, timestamp := 30, handle := 1 },
    .cycle (.fixed []) ⟨15⟩ ⟨110⟩,
    .take { probe := .blockComplete, timestamp := 50, handle := 7 }]

theorem metrics_account_for_run_ailing :
    let monitor := (new {} {}).run ailing
    monitor.metrics.value .completionsUnmatched + monitor.undrained.unmatched.toNat = 2 ∧
      monitor.metrics.value .operationsCompleted "remote" = 1 := by
  intro monitor
  obtain ⟨counts, completed, -⟩ := metrics_account_for_run {} ailing
  exact ⟨(counts .unmatched).2 (by decide), (completed .remote).trans rfl⟩

end Monitor

end StorageTrace
