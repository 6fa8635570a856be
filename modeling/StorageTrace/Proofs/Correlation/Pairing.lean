import StorageTrace.Proofs.Correlation.Run

/-! # Operations come from the latest start

What waits under a key is the latest event of the run with a transition for that key, and that
transition is a start. An emitted operation therefore lies between two events of the run with nothing
for their key in between, so each of the two belongs to one operation of the stage only.
-/

namespace StorageTrace

namespace Operation

/-- The operation lasts from one event to a later one and carries the figures of the two. -/
structure Spans (operation : Operation) (stage : Stage) (first last : Event) : Prop where
  stage : operation.stage = stage
  direction : operation.direction = first.direction
  ordered : first.timestamp ≤ last.timestamp
  duration : operation.duration.toNat = last.timestamp.toNat - first.timestamp.toNat
  completedAt : operation.completedAt = last.timestamp
  bytes : operation.bytes = if last.bytes ≠ 0 then last.bytes else first.bytes
  entity : first.entity.or last.entity = some operation.entity

end Operation

namespace Correlator

/-- A start that waits makes exactly the operation that lasts from its event to the finish. -/
theorem pairUp_ofEvent_iff {stage : Stage} {first last : Event} {operation : Operation} :
    pairUp stage last (PendingStart.ofEvent first) = some operation ↔
      operation.Spans stage first last := by
  rw [pairUp_eq_some_iff]
  constructor
  · rintro ⟨ordered, entity, owner, rfl⟩
    exact ⟨rfl, rfl, ordered, UInt64.toNat_sub_of_le _ _ ordered, rfl, rfl, owner⟩
  · intro spans
    refine ⟨spans.ordered, operation.entity, spans.entity, ?_⟩
    have duration : last.timestamp - first.timestamp = operation.duration := by
      rw [← UInt64.toNat_inj, UInt64.toNat_sub_of_le _ _ spans.ordered, spans.duration]
    obtain ⟨entity, direction, stage', duration', bytes, completedAt⟩ := operation
    obtain ⟨rfl, rfl, _, _, rfl, rfl, _⟩ := spans
    simp only [operationOf, PendingStart.ofEvent, duration]

end Correlator

namespace Run

/-- Two events of a run that open and close a stage for one request, with no transition of that stage
and request between them. -/
structure Pairs (run : Run) (stage : Stage) (i j : Nat) (first last : Observation) : Prop where
  earlier : i < j
  first_at : run.observed[i]? = some first
  last_at : run.observed[j]? = some last
  starts : first.event.Starts (last.event.keyAt stage)
  finishes : last.event.Finishes (last.event.keyAt stage)
  quiet : ∀ (m : Nat) (between : Observation), i < m → m < j → run.observed[m]? = some between →
    ¬ between.event.Touches (last.event.keyAt stage)

namespace Pairs

variable {run : Run} {stage : Stage} {i i' j j' : Nat} {first first' last last' : Observation}

/-- The first event of a pair is the latest one for its key when the last event comes. -/
theorem latest (pair : run.Pairs stage i j first last) :
    Observation.latest? (run.observed.take j) (last.event.keyAt stage) = some first := by
  rw [Observation.latest?_eq_some_iff]
  refine ⟨i, by rw [List.getElem?_take, if_pos pair.earlier, pair.first_at], .inl pair.starts, ?_⟩
  intro m later above present
  rw [List.getElem?_take] at present
  split at present
  · exact pair.quiet m later above ‹_› present
  · cases present

theorem of_latest (last_at : run.observed[j]? = some last)
    (finishes : last.event.Finishes (last.event.keyAt stage))
    (found : Observation.latest? (run.observed.take j) (last.event.keyAt stage) = some first)
    (starts : first.event.Starts (last.event.keyAt stage)) :
    ∃ i, run.Pairs stage i j first last := by
  obtain ⟨i, present, _, quiet⟩ := Observation.latest?_eq_some_iff.1 found
  rw [List.getElem?_take] at present
  split at present
  · rename_i earlier
    refine ⟨i, earlier, present, last_at, starts, finishes, ?_⟩
    intro m between above below atM
    exact quiet m between above (by rw [List.getElem?_take, if_pos below, atM])
  · cases present

/-- The two events of a pair have the same key. -/
theorem same_key (pair : run.Pairs stage i j first last) :
    first.event.keyAt stage = last.event.keyAt stage :=
  Prod.ext rfl pair.starts.2

/-- Pairs of one stage that share their first event are the same pair. -/
theorem last_unique (pair : run.Pairs stage i j first last)
    (pair' : run.Pairs stage i j' first' last') : j = j' := by
  obtain rfl : first = first' := Option.some.inj (pair.first_at.symm.trans pair'.first_at)
  have key : last.event.keyAt stage = last'.event.keyAt stage := pair.same_key.symm.trans pair'.same_key
  rcases Nat.lt_trichotomy j j' with before | same | after
  · exact absurd (.inr (key ▸ pair.finishes)) (pair'.quiet j last pair.earlier before pair.last_at)
  · exact same
  · exact absurd (.inr (key ▸ pair'.finishes)) (pair.quiet j' last' pair'.earlier after pair'.last_at)

/-- Pairs of one stage that share their last event are the same pair. -/
theorem first_unique (pair : run.Pairs stage i j first last)
    (pair' : run.Pairs stage i' j first' last') : i = i' := by
  obtain rfl : last = last' := Option.some.inj (pair.last_at.symm.trans pair'.last_at)
  rcases Nat.lt_trichotomy i i' with before | same | after
  · exact absurd (.inl pair'.starts) (pair.quiet i' first' before pair'.earlier pair'.first_at)
  · exact same
  · exact absurd (.inl pair.starts) (pair'.quiet i first after pair.earlier pair.first_at)

end Pairs

/-! ## What waits -/

/-- Every waiting start is that of the latest event for its key. -/
def WaitsForLatest (observed : List Observation) (correlator : Correlator) : Prop :=
  ∀ key start, correlator.pending.find? key = some start →
    ∃ first, Observation.latest? observed key = some first ∧ first.event.Starts key ∧
      start = PendingStart.ofEvent first.event

theorem kept_waitsForLatest : Kept WaitsForLatest where
  observe observed correlator event before key start found := by
    rw [Observation.latest?_snoc]
    by_cases touched : event.Touches key
    · rw [if_pos touched]
      refine ⟨_, rfl, ?_⟩
      -- a refused start leaves nothing waiting, as a finish does
      rcases touched with starts | finishes
      · rcases correlator.find?_observe_of_starts starts with waiting | ⟨refused, _⟩
        · exact ⟨starts, Option.some.inj (found.symm.trans waiting)⟩
        · rw [refused] at found
          cases found
      · rw [correlator.find?_observe_of_finishes finishes] at found
        cases found
    · rw [if_neg touched]
      exact before key start (correlator.find?_of_observe touched found)
  sweep observed correlator before key start found :=
    before key start (correlator.find?_of_sweep found)
  drain observed correlator before := before

/-- Each operation that a run emits lasts from the latest start of its request to the event that
emits it. Operations of one stage that share either end are the same operation. -/
theorem emitted_between_latest_pair (horizon : Duration) (maxPending : Nat) (calls : List Call) :
    let run := of horizon maxPending calls
    (∀ j operation, run.Emits j operation →
      ∃ i first last, run.Pairs operation.stage i j first last ∧
        operation.Spans operation.stage first.event last.event) ∧
    ∀ i i' j j' first first' last last' operation operation',
      run.Emits j operation → run.Emits j' operation' → operation'.stage = operation.stage →
      run.Pairs operation.stage i j first last → run.Pairs operation'.stage i' j' first' last' →
      (i = i' ↔ j = j') ∧ (j = j' → operation = operation') := by
  intro run
  refine ⟨?_, ?_⟩
  · intro j operation emits
    obtain ⟨last, last_at, emitted⟩ := emits_iff.1 emits
    have finishes := Correlator.finishes_of_observe _ emitted
    have completed : (last.before.pending.find? (last.event.keyAt operation.stage)).bind
        (Correlator.pairUp operation.stage last.event) = some operation :=
      (last.before.observe_operation finishes).symm.trans emitted
    obtain ⟨start, waiting, made⟩ := Option.bind_eq_some_iff.1 completed
    have fresh : WaitsForLatest [] (Correlator.new horizon maxPending) :=
      fun _ _ found => by cases found
    obtain ⟨first, latest, starts, rfl⟩ :=
      holds_before kept_waitsForLatest fresh calls last_at _ _ waiting
    obtain ⟨i, pair⟩ := Pairs.of_latest last_at finishes latest starts
    exact ⟨i, first, last, pair, Correlator.pairUp_ofEvent_iff.1 made⟩
  · intro i i' j j' first first' last last' operation operation' emits emits' stage pair pair'
    rw [stage] at pair'
    refine ⟨⟨?_, ?_⟩, ?_⟩
    · rintro rfl
      exact pair.last_unique pair'
    · rintro rfl
      exact pair.first_unique pair'
    · rintro rfl
      exact Option.some.inj (Option.some.inj (emits.symm.trans emits'))

/-- Two system calls that overlap: the second one to enter is the first to leave. -/
def overlappingReads : List Call :=
  [.observe { probe := .readEntry, timestamp := 100, tid := 1, entity := some "a" },
    .observe { probe := .readEntry, timestamp := 200, tid := 2, entity := some "b" },
    .sweep,
    .observe { probe := .readExit, timestamp := 260, tid := 2, bytes := 512 },
    .observe { probe := .readExit, timestamp := 300, tid := 1 }]

theorem emitted_between_latest_pair_overlapping :
    let run := of ⟨1000⟩ 16 overlappingReads
    let inner : Operation := ⟨"b", .read, .syscall, 60, 512, 260⟩
    let outer : Operation := ⟨"a", .read, .syscall, 200, 0, 300⟩
    run.Emits 2 inner ∧ run.Emits 3 outer ∧
      ∃ i i' first first' last last', run.Pairs .syscall i 2 first last ∧
        run.Pairs .syscall i' 3 first' last' ∧ inner.Spans .syscall first.event last.event ∧
        outer.Spans .syscall first'.event last'.event ∧ i ≠ i' := by
  intro run inner outer
  have emits : run.Emits 2 inner := by rfl
  have emits' : run.Emits 3 outer := by rfl
  obtain ⟨i, first, last, pair, spans⟩ :=
    (emitted_between_latest_pair ⟨1000⟩ 16 overlappingReads).1 2 inner emits
  obtain ⟨i', first', last', pair', spans'⟩ :=
    (emitted_between_latest_pair ⟨1000⟩ 16 overlappingReads).1 3 outer emits'
  have apart := (emitted_between_latest_pair ⟨1000⟩ 16 overlappingReads).2
    i i' 2 3 first first' last last' inner outer emits emits' rfl pair pair'
  exact ⟨emits, emits', i, i', first, first', last, last', pair, pair', spans, spans',
    fun same => absurd (apart.1.1 same) (by decide)⟩

end Run

end StorageTrace
