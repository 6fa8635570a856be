import StorageTrace.Proofs.Correlation.Pairing

/-! # Sweeping loses no live start

Every sweep of a run, whether a call of its own or forced by a full table, measures ages against a
watermark that later events can only raise. So a start that is live when its finish comes was live at
every sweep in between, and if the table took it in it is still there. Where the sweeps stand therefore
makes no difference to operations within the horizon.
-/

namespace StorageTrace

namespace Correlator

variable (correlator : Correlator)

/-- A start that is live after an event was live before it. -/
theorem live_of_observe {event : Event} {start : PendingStart}
    (live : (correlator.observe event).1.Live start) : correlator.Live start := by
  rw [live_iff] at live ⊢
  rw [observe_watermark, observe_horizon] at live
  rw [toNat_max] at live
  omega

/-- Liveness in terms of the horizon as it was given, without saturation or words. -/
theorem live_iff_age {horizon : Duration} (given : correlator.horizon = horizon.saturated)
    (start : PendingStart) :
    correlator.Live start ↔
      correlator.watermark.toNat - start.timestamp.toNat ≤ horizon.nanos := by
  rw [live_iff, given, Duration.toNat_saturated]
  have bound := correlator.watermark.toNat_lt
  have size : UInt64.size = 2 ^ 64 := rfl
  omega

end Correlator

namespace Run

/-- The horizon stays as it was given, and the watermark is the greatest time of the events so far. -/
def KeepsTime (horizon : Duration) (observed : List Observation) (correlator : Correlator) : Prop :=
  correlator.horizon = horizon.saturated ∧
    correlator.watermark = (observed.map (·.event.timestamp)).foldl max 0

theorem kept_keepsTime (horizon : Duration) : Kept (KeepsTime horizon) where
  observe observed correlator event before := by
    refine ⟨by rw [Correlator.observe_horizon, before.1], ?_⟩
    rw [Correlator.observe_watermark, before.2, List.map_append, List.foldl_append]
    rfl
  sweep observed correlator before := before
  drain observed correlator before := before

/-- If the latest event for a key is a start that was not refused and is live, it waits. -/
def LiveStartsWait (observed : List Observation) (correlator : Correlator) : Prop :=
  ∀ key first, Observation.latest? observed key = some first → first.event.Starts key →
    ¬ first.Overflows → correlator.Live (.ofEvent first.event) →
    correlator.pending.find? key = some (.ofEvent first.event)

theorem kept_liveStartsWait : Kept LiveStartsWait where
  observe observed correlator event before key first latest starts accepted live := by
    rw [Observation.latest?_snoc] at latest
    by_cases touched : event.Touches key
    · rw [if_pos touched] at latest
      cases latest
      rcases correlator.find?_observe_of_starts starts with waiting | ⟨_, refused⟩
      · exact waiting
      · exact absurd refused accepted
    · -- a full table sweeps at the watermark that the event brings, so live means live after it
      rw [if_neg touched] at latest
      have waiting := before key first latest starts accepted (correlator.live_of_observe live)
      refine correlator.find?_observe_of_live touched waiting ?_
      rw [Correlator.live_iff] at live ⊢
      rwa [Correlator.observe_watermark, Correlator.observe_horizon] at live
  sweep observed correlator before key first latest starts accepted live :=
    correlator.find?_sweep_of_live (before key first latest starts accepted live) live
  drain observed correlator before := before

variable {horizon : Duration} {maxPending : Nat} {calls calls' : List Call}
variable {stage : Stage} {i j : Nat} {first last : Observation}

/-- The correlator that meets an event of a run has the horizon of the run and knows the times of the
events before. -/
theorem keepsTime_before (present : (of horizon maxPending calls).observed[j]? = some last) :
    KeepsTime horizon ((of horizon maxPending calls).observed.take j) last.before :=
  holds_before (kept_keepsTime horizon) ⟨rfl, rfl⟩ calls present

/-- The last event of a pair within the horizon finds the start of the first one. -/
theorem operation_of_live (pair : (of horizon maxPending calls).Pairs stage i j first last)
    (accepted : ¬ first.Overflows)
    (within : last.before.watermark.toNat - first.event.timestamp.toNat ≤ horizon.nanos) :
    last.operation = Correlator.pairUp stage last.event (.ofEvent first.event) := by
  have live := (last.before.live_iff_age (keepsTime_before pair.last_at).1 (.ofEvent first.event)).2
    within
  have fresh : LiveStartsWait [] (Correlator.new horizon maxPending) :=
    fun _ _ latest => by cases latest
  have waiting := holds_before kept_liveStartsWait fresh calls pair.last_at _ _ pair.latest pair.starts
    accepted live
  have completed := last.before.observe_operation pair.finishes
  rw [waiting, Option.bind_some] at completed
  exact completed

theorem observed_of_events {run run' : Run} {observation : Observation}
    (same : run'.events = run.events) (present : run.observed[j]? = some observation) :
    ∃ observation', run'.observed[j]? = some observation' ∧ observation'.event = observation.event := by
  have image : run'.events[j]? = some observation.event := by
    rw [same, events, List.getElem?_map, present, Option.map_some]
  rw [events, List.getElem?_map, Option.map_eq_some_iff] at image
  exact image

/-- A run over the same events has the same pairs. -/
theorem Pairs.of_events {run run' : Run} (same : run'.events = run.events)
    (pair : run.Pairs stage i j first last) :
    ∃ first' last', run'.Pairs stage i j first' last' ∧ first'.event = first.event ∧
      last'.event = last.event := by
  obtain ⟨first', first_at, first_eq⟩ := observed_of_events same pair.first_at
  obtain ⟨last', last_at, last_eq⟩ := observed_of_events same pair.last_at
  refine ⟨first', last', ⟨pair.earlier, first_at, last_at, ?_, ?_, ?_⟩, first_eq, last_eq⟩
  · rw [first_eq, last_eq]
    exact pair.starts
  · rw [last_eq]
    exact pair.finishes
  · intro m between' above below atM'
    obtain ⟨between, atM, between_eq⟩ := observed_of_events same.symm atM'
    rw [last_eq, ← between_eq]
    exact pair.quiet m between above below atM

/-- Events that have the same events before them meet the same watermark. -/
theorem watermark_of_events {last' : Observation}
    (same : (of horizon maxPending calls').events = (of horizon maxPending calls).events)
    (last_at : (of horizon maxPending calls).observed[j]? = some last)
    (last_at' : (of horizon maxPending calls').observed[j]? = some last') :
    last'.before.watermark = last.before.watermark := by
  have times {run : Run} : (run.observed.take j).map (·.event.timestamp) =
      (run.events.take j).map (·.timestamp) := by
    rw [events, ← List.map_take, List.map_map]
    rfl
  rw [(keepsTime_before last_at).2, (keepsTime_before last_at').2, times, times, same]

/-- A pair whose start was not refused and is within the horizon when its finish comes is emitted,
however many sweeps there were, and runs over the same events that refuse no start emit the same
operations for the pairs within the horizon. -/
theorem pairs_within_horizon_emitted (horizon : Duration) (maxPending : Nat) (calls : List Call) :
    let run := of horizon maxPending calls
    (∀ stage i j first last, run.Pairs stage i j first last → ¬ first.Overflows →
      first.event.timestamp ≤ last.event.timestamp →
      (first.event.entity.isSome ∨ last.event.entity.isSome) →
      last.before.watermark.toNat - first.event.timestamp.toNat ≤ horizon.nanos →
      ∃ operation, run.Emits j operation ∧ operation.Spans stage first.event last.event) ∧
    ∀ calls', calls'.filterMap Call.event? = calls.filterMap Call.event? →
      let run' := of horizon maxPending calls'
      (∀ observation ∈ run.observed, ¬ observation.Overflows) →
      (∀ observation ∈ run'.observed, ¬ observation.Overflows) →
      ∀ stage i j first last, run.Pairs stage i j first last →
        last.before.watermark.toNat - first.event.timestamp.toNat ≤ horizon.nanos →
        run'.operations[j]? = run.operations[j]? := by
  intro run
  refine ⟨?_, ?_⟩
  · intro stage i j first last pair accepted ordered named within
    have completed := operation_of_live pair accepted within
    obtain ⟨entity, owner⟩ : ∃ entity, first.event.entity.or last.event.entity = some entity := by
      rw [← Option.isSome_iff_exists, Option.isSome_or, Bool.or_eq_true]
      exact named
    have made : Correlator.pairUp stage last.event (.ofEvent first.event) =
        some (Correlator.operationOf stage (.ofEvent first.event) last.event entity) :=
      Correlator.pairUp_eq_some_iff.2 ⟨ordered, entity, owner, rfl⟩
    refine ⟨_, emits_iff.2 ⟨last, pair.last_at, completed.trans made⟩, ?_⟩
    exact Correlator.pairUp_ofEvent_iff.1 made
  · intro calls' same run' accepted accepted' stage i j first last pair within
    have sameEvents : run'.events = run.events := by rw [events_of, events_of, same]
    obtain ⟨first', last', pair', first_eq, last_eq⟩ := pair.of_events sameEvents
    have within' : last'.before.watermark.toNat - first'.event.timestamp.toNat ≤ horizon.nanos := by
      rw [watermark_of_events sameEvents pair.last_at pair'.last_at, first_eq]
      exact within
    have completed :=
      operation_of_live pair (accepted first (List.mem_of_getElem? pair.first_at)) within
    have completed' :=
      operation_of_live pair' (accepted' first' (List.mem_of_getElem? pair'.first_at)) within'
    rw [first_eq, last_eq, ← completed] at completed'
    rw [operations, operations, List.getElem?_map, List.getElem?_map, pair.last_at, pair'.last_at,
      Option.map_some, Option.map_some, completed']

/-- Requests that arrive out of order at a table for two. The third one forces a sweep, which drops
the second; a sweep of its own may follow. -/
def crowdedRequests (sweeps : List Call) : List Call :=
  [.observe { probe := .remoteIssue, timestamp := 1000, handle := 1, entity := some "a" },
    .observe { probe := .remoteIssue, timestamp := 500, handle := 2, entity := some "b" },
    .observe { probe := .remoteIssue, timestamp := 1900, handle := 3, entity := some "c" }] ++
  sweeps ++ [.observe { probe := .remoteComplete, timestamp := 1800, handle := 1, bytes := 64 }]

theorem pairs_within_horizon_emitted_crowded :
    let run := of ⟨1000⟩ 2 (crowdedRequests [.sweep])
    let run' := of ⟨1000⟩ 2 (crowdedRequests [])
    ∃ first last operation, run.Pairs .remote 0 3 first last ∧ run.Emits 3 operation ∧
      operation.Spans .remote first.event last.event ∧ run'.operations[3]? = run.operations[3]? := by
  intro run run'
  have pair : run.Pairs .remote 0 3 run.observed[0] run.observed[3] := by
    refine ⟨by decide, rfl, rfl, by decide, by decide, ?_⟩
    intro m between above below present
    obtain rfl | rfl : m = 1 ∨ m = 2 := by omega
    all_goals
      cases present
      decide
  have accepted : ∀ observation ∈ run.observed, ¬ observation.Overflows := by decide
  have accepted' : ∀ observation ∈ run'.observed, ¬ observation.Overflows := by decide
  have within :
      run.observed[3].before.watermark.toNat - run.observed[0].event.timestamp.toNat ≤ 1000 := by
    decide
  obtain ⟨operation, emits, spans⟩ :=
    (pairs_within_horizon_emitted ⟨1000⟩ 2 (crowdedRequests [.sweep])).1 .remote 0 3 _ _ pair
      (accepted _ (List.getElem_mem _)) (by decide) (by decide) within
  have same := (pairs_within_horizon_emitted ⟨1000⟩ 2 (crowdedRequests [.sweep])).2
    (crowdedRequests []) rfl accepted accepted' .remote 0 3 _ _ pair within
  exact ⟨_, _, operation, pair, emits, spans, same⟩

end Run

end StorageTrace
