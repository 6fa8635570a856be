import Mathlib.Data.List.DropRight
import Mathlib.Data.List.Induction
import StorageTrace.Proofs.Cycle.Run

/-! # What is held after a run of cycles

After each cycle the aggregator, the history and the view hold the entities of that cycle and nobody else.
The history of an entity is what was reported of it in its streak, the longest unbroken run of the latest
cycles that it has been in. A cycle that it misses starts it afresh: from then on everything is as if the
run had begun after that cycle.
-/

namespace StorageTrace

/-- A pipeline, and each cycle so far with the snapshots that it reported. -/
structure CycleRun where
  pipeline : Pipeline
  log : List (Cycle × List Snapshot) := []

namespace CycleRun

/-- One cycle more. -/
def step (run : CycleRun) (cycle : Cycle) : CycleRun where
  pipeline := (run.pipeline.turn cycle).1
  log := run.log ++ [(cycle, (run.pipeline.turn cycle).2.snapshots)]

/-- A run of cycles over a new pipeline. -/
def of (config : Config) (cycles : List Cycle) : CycleRun :=
  cycles.foldl step { pipeline := Pipeline.new config }

/-- The longest run of the latest cycles that has the entity in every cycle. -/
def streak (log : List (Cycle × List Snapshot)) (entity : String) : List (Cycle × List Snapshot) :=
  log.rtakeWhile fun entry => entry.1.Present entity

/-- The snapshots of the entity that some cycles reported. -/
def reported (log : List (Cycle × List Snapshot)) (entity : String) : List Snapshot :=
  log.flatMap fun entry => entry.2.filter (·.entity = entity)

/-! ## One cycle more -/

section Step

variable (config : Config) (earlier : List Cycle) (cycle : Cycle) (entity : String)

theorem of_append : of config (earlier ++ [cycle]) = (of config earlier).step cycle := by
  rw [of, List.foldl_append]
  rfl

theorem pipeline_of_append : (of config (earlier ++ [cycle])).pipeline =
    ((of config earlier).pipeline.turn cycle).1 := by
  rw [of_append]
  rfl

theorem log_of_append : (of config (earlier ++ [cycle])).log =
    (of config earlier).log ++ [(cycle, ((of config earlier).pipeline.turn cycle).2.snapshots)] := by
  rw [of_append]
  rfl

theorem follows_of : ((of config earlier).pipeline).Follows config := by
  induction earlier using List.reverseRecOn with
  | nil => exact Pipeline.Follows.new config
  | append_singleton earlier cycle ih =>
    rw [pipeline_of_append]
    exact ih.turn cycle

theorem capacity_of :
    (of config earlier).pipeline.analyzer.history.capacity = max config.analyzer.historyCapacity 1 :=
  congrArg (fun kept => kept.2.2) (follows_of config earlier).settled

/-- A cycle reports one snapshot of each of its entities. -/
theorem reported_of_append :
    reported (of config (earlier ++ [cycle])).log entity =
      reported (of config earlier).log entity ++
        if cycle.Present entity then
          [cycle.snapshot (of config earlier).pipeline.aggregator entity]
        else [] := by
  rw [log_of_append, reported, List.flatMap_append, List.flatMap_singleton,
    Pipeline.filter_snapshots_turn]
  rfl

/-- A cycle with the entity prolongs its streak, and any other ends it. -/
theorem streak_of_append :
    streak (of config (earlier ++ [cycle])).log entity =
      if cycle.Present entity then
        streak (of config earlier).log entity ++
          [(cycle, ((of config earlier).pipeline.turn cycle).2.snapshots)]
      else [] := by
  rw [log_of_append, streak, List.rtakeWhile_concat]
  simp only [decide_eq_true_eq]
  rfl

/-- What is reported in a streak that goes on. -/
theorem reported_streak_of_append (present : cycle.Present entity) :
    reported (streak (of config (earlier ++ [cycle])).log entity) entity =
      reported (streak (of config earlier).log entity) entity ++
        [cycle.snapshot (of config earlier).pipeline.aggregator entity] := by
  rw [streak_of_append, if_pos present, reported, List.flatMap_append, List.flatMap_singleton,
    Pipeline.filter_snapshots_turn, if_pos present]
  rfl

end Step

/-! ## Who is held -/

section Held

variable (config : Config) (earlier : List Cycle) (cycle : Cycle) (entity : String)

theorem mem_carry_iff :
    entity ∈ (of config (earlier ++ [cycle])).pipeline.aggregator.carry.keys ↔
      cycle.Present entity := by
  rw [pipeline_of_append, Table.mem_keys_iff, Pipeline.find?_carry_turn]
  by_cases present : cycle.Present entity
  · simp [present]
  · simp [present]

theorem mem_entities_iff :
    entity ∈ (of config (earlier ++ [cycle])).pipeline.analyzer.history.entities ↔
      cycle.Present entity := by
  have positive := (follows_of config earlier).reflects.positive
  rw [(follows_of config (earlier ++ [cycle])).reflects.mem_entities_iff, pipeline_of_append,
    Pipeline.all_turn]
  by_cases present : cycle.Present entity
  · have last := History.getLast?_extend positive
      ((of config earlier).pipeline.analyzer.history.all entity)
      (cycle.snapshot (of config earlier).pipeline.aggregator entity)
    rw [if_pos present, ← List.getLast?_isSome, last]
    simpa using present
  · simp [present]

end Held

/-! ## What is held -/

/-- The history of an entity retains the last snapshots of its streak with their times raised. -/
theorem all_of (config : Config) (cycles : List Cycle) (entity : String) :
    (of config cycles).pipeline.analyzer.history.all entity =
      History.lastOf (max config.analyzer.historyCapacity 1)
        (History.raised (reported (streak (of config cycles).log entity) entity)) := by
  induction cycles using List.reverseRecOn with
  | nil => exact List.drop_nil.symm
  | append_singleton earlier cycle ih =>
    rw [pipeline_of_append, Pipeline.all_turn, capacity_of, ih]
    by_cases present : cycle.Present entity
    · rw [if_pos present, reported_streak_of_append config earlier cycle entity present,
        History.extend_lastOf_raised (Nat.le_max_right _ _)]
    · rw [if_neg present, streak_of_append, if_neg present]
      exact List.drop_nil.symm

/-- Each cycle of a streak reported one snapshot of the entity. -/
theorem length_reported_streak (config : Config) (cycles : List Cycle) (entity : String) :
    (reported (streak (of config cycles).log entity) entity).length =
      (streak (of config cycles).log entity).length := by
  induction cycles using List.reverseRecOn with
  | nil => rfl
  | append_singleton earlier cycle ih =>
    by_cases present : cycle.Present entity
    · rw [reported_streak_of_append config earlier cycle entity present, streak_of_append,
        if_pos present, List.length_append, List.length_append, ih]
      rfl
    · rw [streak_of_append, if_neg present]
      rfl

/-- After a cycle without the entity, a run goes on with it as a run that begins there does: the same is
carried over, the same history kept, and the same snapshots reported. -/
theorem restart (config : Config) (before : List Cycle) (missed : Cycle) (after : List Cycle)
    (entity : String) (absent : ¬ missed.Present entity) :
    let run := of config (before ++ missed :: after)
    let fresh := of config after
    run.pipeline.aggregator.carry.find? entity = fresh.pipeline.aggregator.carry.find? entity ∧
    run.pipeline.analyzer.history.all entity = fresh.pipeline.analyzer.history.all entity ∧
    reported run.log entity =
      reported (of config (before ++ [missed])).log entity ++ reported fresh.log entity := by
  induction after using List.reverseRecOn with
  | nil =>
    refine ⟨?_, ?_, ?_⟩
    · rw [pipeline_of_append, Pipeline.find?_carry_turn, if_neg absent]
      rfl
    · rw [pipeline_of_append, Pipeline.all_turn, if_neg absent]
      rfl
    · exact (List.append_nil _).symm
  | append_singleton after cycle ih =>
    obtain ⟨carried, history, reports⟩ := ih
    have follows := follows_of config (before ++ missed :: after)
    have followsFresh := follows_of config after
    have latencies := follows.latencies_congr followsFresh carried
    have snapshot := follows.snapshot_congr followsFresh carried cycle
    have split : before ++ missed :: (after ++ [cycle]) = (before ++ missed :: after) ++ [cycle] := by
      simp
    dsimp only
    rw [split]
    refine ⟨?_, ?_, ?_⟩
    · rw [pipeline_of_append, pipeline_of_append, Pipeline.find?_carry_turn, Pipeline.find?_carry_turn,
        latencies]
    · rw [pipeline_of_append, pipeline_of_append, Pipeline.all_turn, Pipeline.all_turn, capacity_of,
        capacity_of, history, snapshot]
    · rw [reported_of_append, reported_of_append config after, reports, snapshot, List.append_assoc]

/-- After every cycle of every run, the aggregator carries latencies, and the history and the view hold
something, for just the entities that are listed or active in that cycle. The history of an entity is what
was reported of it in its streak, one snapshot for each cycle, the last of them up to the capacity and with
their times raised to the latest up to them. An entity that misses a cycle stands afterwards, and is
reported afterwards, as if the run had begun after that cycle. -/
theorem holds_entities_of_cycle (config : Config) (earlier : List Cycle) (cycle : Cycle)
    (entity : String) :
    let run := of config (earlier ++ [cycle])
    let analyzer := run.pipeline.analyzer
    (entity ∈ run.pipeline.aggregator.carry.keys ↔ cycle.Present entity) ∧
    (entity ∈ analyzer.history.entities ↔ cycle.Present entity) ∧
    (entity ∈ analyzer.view.latest.keys ↔ cycle.Present entity) ∧
    (entity ∈ analyzer.view.bottlenecks.keys ↔ cycle.Present entity) ∧
    (entity ∈ analyzer.view.anomalies.keys ↔ cycle.Present entity) ∧
    analyzer.history.all entity = History.lastOf (max config.analyzer.historyCapacity 1)
      (History.raised (reported (streak run.log entity) entity)) ∧
    (reported (streak run.log entity) entity).length = (streak run.log entity).length ∧
    ∀ before missed after, earlier ++ [cycle] = before ++ missed :: after → ¬ missed.Present entity →
      run.pipeline.standing entity = (of config after).pipeline.standing entity ∧
      reported run.log entity =
        reported (of config (before ++ [missed])).log entity ++
          reported (of config after).log entity := by
  intro run analyzer
  have follows : run.pipeline.Follows config := follows_of config (earlier ++ [cycle])
  have held : entity ∈ analyzer.history.entities ↔ cycle.Present entity :=
    mem_entities_iff config earlier cycle entity
  refine ⟨mem_carry_iff config earlier cycle entity, held, ?_, ?_, ?_, all_of .., ?_, ?_⟩
  · exact (follows.reflects.mem_latest_iff entity).trans held
  · exact (follows.reflects.mem_bottlenecks_iff entity).trans held
  · exact (follows.reflects.mem_anomalies_iff entity).trans held
  · exact length_reported_streak ..
  · intro before missed after split absent
    obtain ⟨carried, history, reports⟩ := restart config before missed after entity absent
    rw [← split] at carried history reports
    exact ⟨follows.standing_congr (follows_of config after) carried history, reports⟩

/-- A database reads, is gone for a cycle, and comes back after the clock has been set back. -/
def reads : Cycle where
  window := ({} : Window).record { entity := "db", direction := .read, stage := .syscall, duration := 5000 }
  listed := [{ name := "web" }]
  clock := ⟨1⟩
  now := ⟨30⟩

/-- The cycle without the database. -/
def gone : Cycle where
  window := {}
  listed := [{ name := "web" }]
  clock := ⟨1⟩
  now := ⟨40⟩

/-- A cycle in which the database is listed alone and idle. -/
def listedAt (now : Instant) : Cycle where
  window := {}
  listed := [{ name := "db" }]
  clock := ⟨1⟩
  now := now

theorem holds_entities_of_cycle_returning :
    let run := of {} [reads, gone, listedAt ⟨10⟩, listedAt ⟨5⟩]
    "db" ∈ run.pipeline.aggregator.carry.keys ∧ "web" ∉ run.pipeline.analyzer.view.latest.keys ∧
      (run.pipeline.analyzer.history.all "db").length = 2 ∧
      run.pipeline.standing "db" = (of {} [listedAt ⟨10⟩, listedAt ⟨5⟩]).pipeline.standing "db" := by
  obtain ⟨carried, _, _, _, _, history, reports, restarts⟩ :=
    holds_entities_of_cycle {} [reads, gone, listedAt ⟨10⟩] (listedAt ⟨5⟩) "db"
  obtain ⟨_, _, shown, _⟩ := holds_entities_of_cycle {} [reads, gone, listedAt ⟨10⟩] (listedAt ⟨5⟩) "web"
  have since : (streak (of {} [reads, gone, listedAt ⟨10⟩, listedAt ⟨5⟩]).log "db").length = 2 := by
    decide
  refine ⟨carried.2 (by decide), fun web => absurd (shown.1 web) (by decide), ?_, ?_⟩
  · rw [List.cons_append, List.cons_append, List.cons_append, List.nil_append] at history reports
    rw [history, History.length_lastOf, History.length_raised, reports, since]
    rfl
  · exact (restarts [reads] gone [listedAt ⟨10⟩, listedAt ⟨5⟩] rfl (by decide)).1

end CycleRun

end StorageTrace
