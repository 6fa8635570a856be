import StorageTrace.Proofs.Correlation.Sparing

/-! # Operations that outlast the horizon

A finish takes whatever start still waits, however old it is. So the horizon bounds the age of a start at the
sweeps between its event and the finish, and an operation may last longer by as much as time has gone on since
the last of them. Where no sweep lies in between, it may last for any time.
-/

namespace StorageTrace

namespace Run

variable {horizon : Duration} {maxPending : Nat} {calls : List Call}

/-- The first event of a pair waits for the last one exactly if it was taken in and every sweep between them
has spared it. -/
theorem Pairs.waits_iff {stage : Stage} {i j : Nat} {first last : Observation}
    (pair : (of horizon maxPending calls).Pairs stage i j first last) :
    last.before.pending.find? (last.event.keyAt stage) = some (.ofEvent first.event) ↔
      ¬ first.Overflows ∧ ∀ sweep ∈ sweeps horizon maxPending calls, sweep.Between i j →
        sweep.Spares horizon first.event.timestamp := by
  obtain ⟨earlier, state, events, swept⟩ := exists_run_before horizon maxPending calls pair.last_at
  have first_at : (of horizon maxPending earlier).observed[i]? = some first := by
    rw [events, List.getElem?_take, if_pos pair.earlier, pair.first_at]
  have quiet : ∀ (m : Nat) (later : Observation), i < m →
      (of horizon maxPending earlier).observed[m]? = some later →
      ¬ later.event.Touches (last.event.keyAt stage) := by
    intro m later above atM
    rw [events, List.getElem?_take] at atM
    split at atM
    · exact pair.quiet m later above ‹_› atM
    · cases atM
  rw [← state, waits_iff_spared first_at pair.starts quiet]
  refine and_congr_right fun _ => ⟨fun spared sweep member between => ?_, fun spared sweep member late => ?_⟩
  · exact spared sweep ((swept sweep).2 ⟨member, between.2⟩) between.1
  · obtain ⟨member, next⟩ := (swept sweep).1 member
    exact spared sweep member ⟨late, next⟩

/-- What a run emits is made of a pair whose first event still waits. -/
theorem pair_of_emits {j : Nat} {operation : Operation}
    (emits : (of horizon maxPending calls).Emits j operation) :
    ∃ i first last, (of horizon maxPending calls).Pairs operation.stage i j first last ∧
      last.before.pending.find? (last.event.keyAt operation.stage) = some (.ofEvent first.event) ∧
      operation.Spans operation.stage first.event last.event := by
  obtain ⟨last, last_at, emitted⟩ := emits_iff.1 emits
  have finishes := Correlator.finishes_of_observe _ emitted
  have completed : (last.before.pending.find? (last.event.keyAt operation.stage)).bind
      (Correlator.pairUp operation.stage last.event) = some operation :=
    (last.before.observe_operation finishes).symm.trans emitted
  obtain ⟨start, waiting, made⟩ := Option.bind_eq_some_iff.1 completed
  have fresh : WaitsForLatest [] (Correlator.new horizon maxPending) := fun _ _ found => by cases found
  obtain ⟨first, latest, starts, rfl⟩ :=
    holds_before kept_waitsForLatest fresh calls last_at _ _ waiting
  obtain ⟨i, pair⟩ := Pairs.of_latest last_at finishes latest starts
  exact ⟨i, first, last, pair, waiting, Correlator.pairUp_ofEvent_iff.1 made⟩

/-- A pair is emitted exactly if its first event still waits, its times are in order and one of the two events
names an entity. The age of the start is no part of it. -/
theorem Pairs.emits_iff {stage : Stage} {i j : Nat} {first last : Observation}
    (pair : (of horizon maxPending calls).Pairs stage i j first last) :
    (∃ operation, (of horizon maxPending calls).Emits j operation ∧
        operation.Spans stage first.event last.event) ↔
      last.before.pending.find? (last.event.keyAt stage) = some (.ofEvent first.event) ∧
        first.event.timestamp ≤ last.event.timestamp ∧
        (first.event.entity.or last.event.entity).isSome := by
  constructor
  · rintro ⟨operation, emits, spans⟩
    obtain ⟨i', first', last', pair', waiting, -⟩ := pair_of_emits emits
    rw [spans.stage] at pair' waiting
    obtain rfl := pair.first_unique pair'
    obtain rfl : first = first' := Option.some.inj (pair.first_at.symm.trans pair'.first_at)
    obtain rfl : last = last' := Option.some.inj (pair.last_at.symm.trans pair'.last_at)
    exact ⟨waiting, spans.ordered, spans.entity ▸ rfl⟩
  · rintro ⟨waiting, ordered, named⟩
    obtain ⟨entity, owner⟩ := Option.isSome_iff_exists.1 named
    have completed := last.before.observe_operation pair.finishes
    rw [waiting, Option.bind_some] at completed
    have made : Correlator.pairUp stage last.event (.ofEvent first.event) =
        some (Correlator.operationOf stage (.ofEvent first.event) last.event entity) :=
      Correlator.pairUp_eq_some_iff.2 ⟨ordered, entity, owner, rfl⟩
    exact ⟨_, Run.emits_iff.2 ⟨last, pair.last_at, completed.trans made⟩,
      Correlator.pairUp_ofEvent_iff.1 made⟩

/-- A pair is emitted exactly if its start was taken in, its finish does not precede the start, one of the
two names an entity, and every sweep between them finds the start within the horizon; the time of the finish
does not count. So an operation lasts at most the horizon beyond the watermark of any sweep between its ends,
and no longer than the horizon if one of them has seen a time as late as its finish. -/
theorem emitted_iff_spared (horizon : Duration) (maxPending : Nat) (calls : List Call) :
    let run := of horizon maxPending calls
    (∀ stage i j first last, run.Pairs stage i j first last →
      ((∃ operation, run.Emits j operation ∧ operation.Spans stage first.event last.event) ↔
        ¬ first.Overflows ∧ first.event.timestamp ≤ last.event.timestamp ∧
          (first.event.entity.or last.event.entity).isSome ∧
          ∀ sweep ∈ sweeps horizon maxPending calls, sweep.Between i j →
            sweep.Spares horizon first.event.timestamp)) ∧
    ∀ j operation, run.Emits j operation →
      ∃ i first last, run.Pairs operation.stage i j first last ∧
        operation.Spans operation.stage first.event last.event ∧
        ∀ sweep ∈ sweeps horizon maxPending calls, sweep.Between i j →
          operation.duration.toNat ≤
            horizon.nanos + (operation.completedAt.toNat - sweep.watermark.toNat) := by
  intro run
  refine ⟨?_, ?_⟩
  · intro stage i j first last pair
    rw [pair.emits_iff, pair.waits_iff]
    constructor
    · rintro ⟨⟨accepted, spared⟩, ordered, named⟩
      exact ⟨accepted, ordered, named, spared⟩
    · rintro ⟨accepted, ordered, named, spared⟩
      exact ⟨⟨accepted, spared⟩, ordered, named⟩
  · intro j operation emits
    obtain ⟨i, first, last, pair, waiting, spans⟩ := pair_of_emits emits
    refine ⟨i, first, last, pair, spans, ?_⟩
    intro sweep member between
    have spared : sweep.watermark.toNat - first.event.timestamp.toNat ≤ horizon.nanos :=
      (pair.waits_iff.1 waiting).2 sweep member between
    rw [spans.duration, spans.completedAt]
    omega

/-- A request that outlasts a horizon of one microsecond. Sweeps may come before and after the second request,
whose time makes the first one too old. -/
def lateRequest (early late : List Call) : List Call :=
  [.observe { probe := .remoteIssue, timestamp := 1000, handle := 1, entity := some "a" }] ++ early ++
  [.observe { probe := .remoteIssue, timestamp := 5000, handle := 2, entity := some "b" }] ++ late ++
  [.observe { probe := .remoteComplete, timestamp := 6000, handle := 1 }]

/-- The early sweep spares the start, and the operation is emitted after five horizons; the late one does
not. -/
theorem emitted_iff_spared_late :
    let run := of ⟨1000⟩ 16 (lateRequest [.sweep] [])
    let swept := of ⟨1000⟩ 16 (lateRequest [] [.sweep])
    (∃ operation, run.Emits 2 operation ∧ operation.duration.toNat = 5 * 1000 ∧
      operation.duration.toNat ≤ 1000 + (operation.completedAt.toNat - 1000)) ∧
    ¬ ∃ operation, swept.Emits 2 operation ∧
      operation.Spans .remote swept.observed[0].event swept.observed[2].event := by
  intro run swept
  have pair : run.Pairs .remote 0 2 run.observed[0] run.observed[2] := by
    refine ⟨by decide, rfl, rfl, by decide, by decide, ?_⟩
    intro m between above below present
    obtain rfl : m = 1 := by omega
    cases present
    decide
  have pair' : swept.Pairs .remote 0 2 swept.observed[0] swept.observed[2] := by
    refine ⟨by decide, rfl, rfl, by decide, by decide, ?_⟩
    intro m between above below present
    obtain rfl : m = 1 := by omega
    cases present
    decide
  have spared : ∀ sweep ∈ sweeps ⟨1000⟩ 16 (lateRequest [.sweep] []), sweep.Between 0 2 →
      sweep.Spares ⟨1000⟩ run.observed[0].event.timestamp := by decide
  have dropped : ¬ ∀ sweep ∈ sweeps ⟨1000⟩ 16 (lateRequest [] [.sweep]), sweep.Between 0 2 →
      sweep.Spares ⟨1000⟩ swept.observed[0].event.timestamp := by decide
  refine ⟨?_, ?_⟩
  · obtain ⟨operation, emits, spans⟩ :=
      ((emitted_iff_spared ⟨1000⟩ 16 (lateRequest [.sweep] [])).1 .remote 0 2 _ _ pair).2
        ⟨by decide, by decide, by decide, spared⟩
    obtain ⟨i, first, last, pair'', spans', bound⟩ :=
      (emitted_iff_spared ⟨1000⟩ 16 (lateRequest [.sweep] [])).2 2 operation emits
    rw [spans.stage] at pair''
    obtain rfl := pair.first_unique pair''
    exact ⟨operation, emits, spans.duration.trans (by decide), bound ⟨1, 1, 1000⟩ (by decide) (by decide)⟩
  · intro emitted
    have facts := ((emitted_iff_spared ⟨1000⟩ 16 (lateRequest [] [.sweep])).1 .remote 0 2 _ _ pair').1
      emitted
    exact dropped facts.2.2.2

end Run

end StorageTrace
