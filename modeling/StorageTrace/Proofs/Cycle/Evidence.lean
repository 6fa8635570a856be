import StorageTrace.Proofs.Cycle.Agreement

/-! # The evidence for an anomaly

An entity is judged by its retained history alone, and that holds no more than what was reported of it in its
streak. So an entity that stands out was there in each of the latest cycles, as many as the settings ask for,
and the settings ask for no more than a history may hold.
-/

namespace StorageTrace

namespace Anomaly

/-- Only a history that is long enough stands out. -/
theorem le_length_of_detect {history : List Snapshot} {settings : AnomalySettings}
    (standsOut : detect history settings = true) : max settings.minHistory 1 ≤ history.length := by
  unfold detect at standsOut
  split at standsOut
  · cases standsOut
  · rename_i long
    simp only [Bool.or_eq_true, decide_eq_true_eq, not_or, List.isEmpty_iff, Nat.not_lt] at long
    exact Nat.max_le.2 ⟨long.2, List.length_pos_iff.2 long.1⟩

end Anomaly

namespace CycleRun

/-! ## The latest cycles -/

theorem log_cycles (config : Config) (cycles : List Cycle) :
    (of config cycles).log.map Prod.fst = cycles := by
  induction cycles using List.reverseRecOn with
  | nil => rfl
  | append_singleton earlier cycle ih =>
    rw [log_of_append, List.map_append, ih]
    rfl

/-- A cycle has reported a snapshot of each entity that was there. -/
theorem reported_of_present {config : Config} {cycles : List Cycle} {entry : Cycle × List Snapshot}
    (member : entry ∈ (of config cycles).log) {entity : String} (present : entry.1.Present entity) :
    ∃ snapshot ∈ entry.2, snapshot.entity = entity := by
  induction cycles using List.reverseRecOn with
  | nil => cases member
  | append_singleton earlier cycle ih =>
    rw [log_of_append] at member
    rcases List.mem_append.1 member with before | now
    · exact ih before
    · obtain rfl := List.mem_singleton.1 now
      have only := Pipeline.filter_snapshots_turn (of config earlier).pipeline cycle entity
      rw [if_pos present] at only
      have found := List.mem_filter.1 (only ▸ List.mem_singleton_self _)
      exact ⟨_, found.1, of_decide_eq_true found.2⟩

theorem streak_suffix (log : List (Cycle × List Snapshot)) (entity : String) :
    streak log entity <:+ log := List.rtakeWhile_suffix _ _

/-- The last cycles of a run have the entity, as many as its streak has. -/
theorem present_of_mem_lastOf {log : List (Cycle × List Snapshot)} {entity : String} {count : Nat}
    (lasting : count ≤ (streak log entity).length) {entry : Cycle × List Snapshot}
    (member : entry ∈ History.lastOf count log) : entry.1.Present entity := by
  have few : (History.lastOf count log).length ≤ (streak log entity).length := by
    rw [History.length_lastOf]
    exact Nat.le_trans (Nat.min_le_left ..) lasting
  have inside : History.lastOf count log <:+ streak log entity :=
    List.suffix_of_suffix_length_le (List.drop_suffix ..) (streak_suffix log entity) few
  have among := inside.subset member
  rw [streak] at among
  have passes := List.mem_rtakeWhile_imp among
  exact of_decide_eq_true passes

/-! ## Evidence -/

/-- No history outgrows the capacity or the streak of its entity. -/
theorem length_all_of (config : Config) (cycles : List Cycle) (entity : String) :
    ((of config cycles).pipeline.analyzer.history.all entity).length =
      min (max config.analyzer.historyCapacity 1) (streak (of config cycles).log entity).length := by
  rw [all_of, History.length_lastOf, History.length_raised, length_reported_streak]

/-- An entity stands out only through its history. -/
theorem detect_of_anomaly {config : Config} {cycles : List Cycle} {entity : String}
    (flagged : (of config cycles).pipeline.analyzer.view.anomaly entity = true) :
    Anomaly.detect ((of config cycles).pipeline.analyzer.history.all entity) config.analyzer.anomaly =
      true := by
  have follows := follows_of config cycles
  have settings : (of config cycles).pipeline.analyzer.anomaly = config.analyzer.anomaly :=
    congrArg (fun kept => kept.2.1) follows.settled
  by_cases member : entity ∈ (of config cycles).pipeline.analyzer.history.entities
  · obtain ⟨_, -, -, -, -, shown⟩ := follows.reflects.of_mem member
    rw [← settings, ← shown]
    exact flagged
  · obtain ⟨-, -, unflagged, -⟩ := follows.reflects.of_not_mem member
    rw [unflagged] at flagged
    cases flagged

/-- An entity that stands out after some cycles, whatever they were, was listed or active in each of the
latest ones, as many as the settings ask for and at least one, and each of them reported a snapshot of it.
There have been that many cycles, and a history may hold that many snapshots. -/
theorem anomaly_needs_unbroken_reports (config : Config) (cycles : List Cycle) (entity : String)
    (flagged : (of config cycles).pipeline.analyzer.view.anomaly entity = true) :
    let needed := max config.analyzer.anomaly.minHistory 1
    config.analyzer.anomaly.minHistory ≤ max config.analyzer.historyCapacity 1 ∧
      needed ≤ cycles.length ∧
      (∀ cycle ∈ History.lastOf needed cycles, cycle.Present entity) ∧
      ∀ entry ∈ History.lastOf needed (of config cycles).log,
        ∃ snapshot ∈ entry.2, snapshot.entity = entity := by
  intro needed
  have long : needed ≤ _ := Anomaly.le_length_of_detect (detect_of_anomaly flagged)
  rw [length_all_of] at long
  obtain ⟨room, lasting⟩ := Nat.le_min.1 long
  have cyclesOf := log_cycles config cycles
  have within : (streak (of config cycles).log entity).length ≤ cycles.length := by
    have whole := congrArg List.length cyclesOf
    rw [List.length_map] at whole
    exact whole ▸ (streak_suffix (of config cycles).log entity).length_le
  refine ⟨Nat.le_trans (Nat.le_max_left ..) room, Nat.le_trans lasting within, ?_, ?_⟩
  · intro cycle member
    rw [← cyclesOf, History.lastOf, List.length_map, ← List.map_drop] at member
    obtain ⟨entry, among, rfl⟩ := List.mem_map.1 member
    exact present_of_mem_lastOf lasting among
  · intro entry member
    exact reported_of_present (List.mem_of_mem_drop member) (present_of_mem_lastOf lasting member)

/-- A cycle in which the database completes one read and nobody is listed. -/
def readFor (duration : UInt64) : Cycle where
  window := ({} : Window).record { entity := "db", direction := .read, stage := .syscall, duration }
  listed := []
  clock := ⟨1⟩
  now := ⟨30⟩

/-- Nobody is there, then the database reads twice at one pace and once slowly. -/
def spike : List Cycle := [{ readFor 0 with window := {} }, readFor 100, readFor 100, readFor 900]

/-- Three snapshots are kept and three are needed. -/
def threeNeeded : Config :=
  { analyzer :=
    { historyCapacity := 3, anomaly := { threshold := 0.003, minHistory := 3, denominator := .variance } } }

theorem anomaly_needs_unbroken_reports_spike :
    let run := of threeNeeded spike
    run.pipeline.analyzer.view.anomaly "db" = true ∧
      (∀ cycle ∈ [readFor 100, readFor 100, readFor 900], cycle.Present "db") ∧
      ∀ entry ∈ History.lastOf 3 run.log, ∃ snapshot ∈ entry.2, snapshot.entity = "db" := by
  intro run
  have flagged : run.pipeline.analyzer.view.anomaly "db" = true := by decide +kernel
  obtain ⟨-, -, present, reported⟩ := anomaly_needs_unbroken_reports threeNeeded spike "db" flagged
  exact ⟨flagged, present, reported⟩

end CycleRun

end StorageTrace
