import StorageTrace.Analyzer
import StorageTrace.Proofs.Analysis.Retained

/-! # Runs of an analyzer

A run takes in batches of snapshots and retires entities, in any order. The history of an entity is
extended by the snapshots of that entity in their order and dropped when the entity is retired; nothing
else touches it.
-/

namespace StorageTrace

namespace Analyzer

/-- One use of an analyzer that changes it. -/
inductive Call where
  | applyCycle (snapshots : List Snapshot)
  | retain (keep : String → Bool)

namespace Call

/-- The call takes in a cycle. -/
def isCycle : Call → Bool
  | .applyCycle _ => true
  | .retain _ => false

end Call

/-- The analyzer after one use. -/
def answer (analyzer : Analyzer) : Call → Analyzer
  | .applyCycle snapshots => analyzer.applyCycle snapshots
  | .retain keep => (analyzer.retain keep).1

/-- A new analyzer after some uses. -/
def run (settings : AnalyzerSettings) (calls : List Call) : Analyzer :=
  calls.foldl answer (new settings)

/-- What holds of a new analyzer and is preserved by every call holds after every run. -/
theorem run_induction {settings : AnalyzerSettings} (holds : Analyzer → Prop)
    (fresh : holds (new settings)) (answered : ∀ analyzer call, holds analyzer → holds (analyzer.answer call))
    (calls : List Call) : holds (run settings calls) := by
  unfold run
  generalize new settings = analyzer at fresh ⊢
  induction calls generalizing analyzer with
  | nil => exact fresh
  | cons call rest ih => exact ih _ (answered analyzer call fresh)

/-- What every snapshot preserves is preserved by a batch, if it does not depend on the cycle. -/
theorem applyCycle_induction (holds : Analyzer → Prop) (analyzer : Analyzer) (snapshots : List Snapshot)
    (next : ∀ cycle, holds { analyzer with view := { analyzer.view with cycle } })
    (judged : ∀ analyzer snapshot, holds analyzer → holds (analyzer.judge snapshot)) :
    holds (analyzer.applyCycle snapshots) := by
  unfold applyCycle
  have start := next (analyzer.view.cycle + 1)
  generalize ({ analyzer with view := { analyzer.view with cycle := _ } } : Analyzer) = current at start ⊢
  induction snapshots generalizing current with
  | nil => exact start
  | cons snapshot rest ih => exact ih _ (judged current snapshot start)

/-! ## Settings -/

/-- The settings of an analyzer, which no call changes. -/
def settled (analyzer : Analyzer) : Thresholds × AnomalySettings × Nat :=
  (analyzer.thresholds, analyzer.anomaly, analyzer.history.capacity)

theorem history_judge (analyzer : Analyzer) (snapshot : Snapshot) :
    (analyzer.judge snapshot).history = analyzer.history.append snapshot.entity snapshot := by
  unfold judge
  dsimp only
  split
  · rfl
  · rfl

theorem settled_judge (analyzer : Analyzer) (snapshot : Snapshot) :
    (analyzer.judge snapshot).settled = analyzer.settled := by
  unfold judge
  dsimp only
  split
  · rfl
  · rfl

theorem settled_applyCycle (analyzer : Analyzer) (snapshots : List Snapshot) :
    (analyzer.applyCycle snapshots).settled = analyzer.settled :=
  analyzer.applyCycle_induction (·.settled = analyzer.settled) snapshots (fun _ => rfl)
    fun current snapshot same => (current.settled_judge snapshot).trans same

theorem settled_retain (analyzer : Analyzer) (keep : String → Bool) :
    (analyzer.retain keep).1.settled = analyzer.settled := by
  simp only [retain]
  split
  · rfl
  · rfl

theorem settled_run (settings : AnalyzerSettings) (calls : List Call) :
    (run settings calls).settled =
      (Thresholds.ofSettings settings.thresholds, settings.anomaly, max settings.historyCapacity 1) := by
  change (run settings calls).settled = (new settings).settled
  refine run_induction (fun analyzer => analyzer.settled = (new settings).settled) rfl ?_ calls
  intro analyzer call same
  cases call with
  | applyCycle snapshots => exact (analyzer.settled_applyCycle snapshots).trans same
  | retain keep => exact (analyzer.settled_retain keep).trans same

/-! ## Histories -/

/-- One snapshot extends the list of its own entity. -/
theorem all_judge (analyzer : Analyzer) (snapshot : Snapshot) (entity : String) :
    (analyzer.judge snapshot).history.all entity =
      if entity = snapshot.entity then
        History.extend analyzer.history.capacity (analyzer.history.all entity) snapshot
      else analyzer.history.all entity := by
  rw [history_judge, History.all_append]
  by_cases own : entity = snapshot.entity
  · rw [if_pos own, if_pos own, own]
    rfl
  · rw [if_neg own, if_neg own]

/-- A batch extends the list of an entity by the snapshots of that entity. -/
theorem all_applyCycle (analyzer : Analyzer) (snapshots : List Snapshot) (entity : String) :
    (analyzer.applyCycle snapshots).history.all entity =
      (snapshots.filter (·.entity = entity)).foldl (History.extend analyzer.history.capacity)
        (analyzer.history.all entity) := by
  have general : ∀ current : Analyzer,
      (snapshots.foldl judge current).history.all entity =
        (snapshots.filter (·.entity = entity)).foldl (History.extend current.history.capacity)
          (current.history.all entity) := by
    induction snapshots with
    | nil => intro current; rfl
    | cons snapshot rest ih =>
      intro current
      have capacity : (current.judge snapshot).history.capacity = current.history.capacity := by
        rw [history_judge]
        rfl
      rw [List.foldl_cons, ih, all_judge, capacity, List.filter_cons]
      by_cases own : entity = snapshot.entity
      · simp [own]
      · simp [own, Ne.symm own]
  exact general _

theorem history_retain (analyzer : Analyzer) (keep : String → Bool) :
    (analyzer.retain keep).1.history = (analyzer.history.retain keep).1 := by
  simp only [retain]
  split
  · rfl
  · rfl

/-- Retiring drops the lists of the entities that the test rejects. -/
theorem all_retained (analyzer : Analyzer) (keep : String → Bool) (entity : String) :
    (analyzer.retain keep).1.history.all entity =
      if keep entity then analyzer.history.all entity else [] := by
  rw [history_retain, History.all_retain]

end Analyzer

end StorageTrace
