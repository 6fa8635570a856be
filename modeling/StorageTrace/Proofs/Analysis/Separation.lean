import Mathlib.Data.List.Induction
import StorageTrace.Proofs.Analysis.View

/-! # Entities do not interfere

All that an analyzer tells about an entity follows from what a run brings about that entity: its snapshots
and its retirements, in their order. How the snapshots are grouped into cycles, where they stand in a
batch, and what happens to other entities in between makes no difference.
-/

namespace StorageTrace

namespace Analyzer

/-- What a run can bring about one entity. -/
inductive Notice where
  | reported (snapshot : Snapshot)
  | retired

namespace Call

/-- What the call brings about an entity, in order. -/
def notices (entity : String) : Call → List Notice
  | .applyCycle snapshots => (snapshots.filter (·.entity = entity)).map .reported
  | .retain keep => if keep entity then [] else [.retired]

end Call

/-- What the calls of a run bring about an entity, in order. -/
def notices (entity : String) (calls : List Call) : List Notice := calls.flatMap (·.notices entity)

/-- The list of an entity after one more notice about it. -/
def heed (capacity : Nat) (retained : List Snapshot) : Notice → List Snapshot
  | .reported snapshot => History.extend capacity retained snapshot
  | .retired => []

/-- A call changes the list of an entity by its notices about that entity alone. -/
theorem all_answer (analyzer : Analyzer) (call : Call) (entity : String) :
    (analyzer.answer call).history.all entity =
      (call.notices entity).foldl (heed analyzer.history.capacity) (analyzer.history.all entity) := by
  cases call with
  | applyCycle snapshots =>
    rw [answer, all_applyCycle, Call.notices, List.foldl_map]
    rfl
  | retain keep =>
    rw [answer, all_retained, Call.notices]
    split
    · rfl
    · rfl

/-- The list of an entity after a run is made from the notices about that entity. -/
theorem all_run (settings : AnalyzerSettings) (calls : List Call) (entity : String) :
    (run settings calls).history.all entity =
      (notices entity calls).foldl (heed (max settings.historyCapacity 1)) [] := by
  induction calls using List.reverseRecOn with
  | nil => rfl
  | append_singleton calls call ih =>
    have capacity : (run settings calls).history.capacity = max settings.historyCapacity 1 :=
      congrArg (fun kept => kept.2.2) (settled_run settings calls)
    have next : run settings (calls ++ [call]) = (run settings calls).answer call :=
      List.foldl_append
    have heard : notices entity (calls ++ [call]) = notices entity calls ++ call.notices entity := by
      rw [notices, List.flatMap_append, List.flatMap_singleton]
      rfl
    rw [next, all_answer, capacity, ih, heard, List.foldl_append]

/-- No call changes how large a change of the latency counts as a trend. -/
theorem trendChangePercent_run (settings : AnalyzerSettings) (calls : List Call) :
    (run settings calls).trendChangePercent = settings.trendChangePercent := by
  refine run_induction (fun analyzer => analyzer.trendChangePercent = settings.trendChangePercent)
    rfl ?_ calls
  intro analyzer call same
  cases call with
  | applyCycle snapshots =>
    refine analyzer.applyCycle_induction (·.trendChangePercent = settings.trendChangePercent) snapshots
      (fun _ => same) ?_
    intro current snapshot before
    rw [judge]
    split
    · exact before
    · exact before
  | retain keep =>
    simp only [answer, retain]
    split
    · exact same
    · exact same

/-- Two runs under the same settings that bring the same about an entity leave it with the same history,
and they tell the same of it: the latest snapshot, the verdicts and the trend over every window. -/
theorem told_of_notices (settings : AnalyzerSettings) (calls calls' : List Call) (entity : String)
    (same : notices entity calls = notices entity calls') :
    let left := run settings calls
    let right := run settings calls'
    left.history.all entity = right.history.all entity ∧
      left.view.latest? entity = right.view.latest? entity ∧
      left.view.bottleneck entity = right.view.bottleneck entity ∧
      left.view.anomaly entity = right.view.anomaly entity ∧
      ∀ window now, left.trendAt entity window now = right.trendAt entity window now := by
  intro left right
  have history : left.history.all entity = right.history.all entity := by
    rw [all_run, all_run, same]
  have settled : left.settled = right.settled :=
    (settled_run settings calls).trans (settled_run settings calls').symm
  have thresholds : left.thresholds = right.thresholds := congrArg Prod.fst settled
  have anomaly : left.anomaly = right.anomaly := congrArg (fun kept => kept.2.1) settled
  have change : left.trendChangePercent = right.trendChangePercent :=
    (trendChangePercent_run settings calls).trans (trendChangePercent_run settings calls').symm
  have reflects : left.Reflects := Reflects.run settings calls
  have reflects' : right.Reflects := Reflects.run settings calls'
  refine ⟨history, ?_, ?_, ?_, ?_⟩
  · rw [View.latest?, reflects.latest entity, history]
    exact (reflects'.latest entity).symm
  · rw [View.bottleneck, reflects.bottlenecks entity, history, thresholds, View.bottleneck,
      reflects'.bottlenecks entity]
  · rw [View.anomaly, reflects.anomalies entity, history, anomaly, View.anomaly,
      reflects'.anomalies entity]
  · intro window now
    rw [trendAt, history, change, trendAt]

/-- Two snapshots of an entity in one batch, with another entity between them. -/
def together : List Call :=
  [.applyCycle [{ entity := "db", timestamp := ⟨10⟩ }, { entity := "web", timestamp := ⟨7⟩ },
      { entity := "db", timestamp := ⟨5⟩ }]]

/-- The same two snapshots in cycles of their own, while others come and go. -/
def apart : List Call :=
  [.applyCycle [{ entity := "web", timestamp := ⟨3⟩ }, { entity := "db", timestamp := ⟨10⟩ }],
    .retain (· ≠ "web"), .applyCycle [], .retain fun _ => true,
    .applyCycle [{ entity := "db", timestamp := ⟨5⟩ }, { entity := "cache", timestamp := ⟨20⟩ }]]

theorem told_of_notices_apart :
    (run {} together).history.all "db" = (run {} apart).history.all "db" ∧
      (run {} together).view.latest? "db" = (run {} apart).view.latest? "db" ∧
      ((run {} together).view.latest? "web").isSome ∧ ((run {} apart).view.latest? "web").isNone := by
  have same : notices "db" together = notices "db" apart := rfl
  obtain ⟨history, latest, _⟩ := told_of_notices {} together apart "db" same
  exact ⟨history, latest, by decide, by decide⟩

end Analyzer

end StorageTrace
