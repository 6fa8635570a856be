import StorageTrace.Collector
import StorageTrace.Proofs.Correlation.Retention

/-! # Runs of a collector

A run processes events into windows, sweeps, refreshes the index and reads the counts, in any order. It
keeps every event together with the collector that met it and the window that was at hand. Its correlator
sees the events as the index of the moment assigns them, so a run of a collector is a run of a correlator
in which no refresh shows, and what waits there for a request is the latest start of that request.
-/

namespace StorageTrace

namespace OwnerIndex

theorem probe_assign (index : OwnerIndex) (event : Event) :
    (index.assign event).probe = event.probe := by
  unfold assign
  split
  · rfl
  · rfl

theorem timestamp_assign (index : OwnerIndex) (event : Event) :
    (index.assign event).timestamp = event.timestamp := by
  unfold assign
  split
  · rfl
  · rfl

theorem direction_assign (index : OwnerIndex) (event : Event) :
    (index.assign event).direction = event.direction := by
  unfold assign
  split
  · rfl
  · rfl

/-- Whose event it is has no part in the key of its request. -/
theorem requestKey_assign (index : OwnerIndex) (event : Event) :
    RequestKey.ofEvent (index.assign event) = RequestKey.ofEvent event := by
  unfold assign
  split
  · rfl
  · rfl

theorem keyAt_assign (index : OwnerIndex) (event : Event) (stage : Stage) :
    (index.assign event).keyAt stage = event.keyAt stage :=
  congrArg (Prod.mk stage) (index.requestKey_assign event)

theorem starts_assign (index : OwnerIndex) (event : Event) (key : StageKey) :
    (index.assign event).Starts key ↔ event.Starts key := by
  rw [Event.Starts, Event.Starts, probe_assign, requestKey_assign]

theorem finishes_assign (index : OwnerIndex) (event : Event) (key : StageKey) :
    (index.assign event).Finishes key ↔ event.Finishes key := by
  rw [Event.Finishes, Event.Finishes, probe_assign, requestKey_assign]

theorem touches_assign (index : OwnerIndex) (event : Event) (key : StageKey) :
    (index.assign event).Touches key ↔ event.Touches key := by
  rw [Event.Touches, Event.Touches, starts_assign, finishes_assign]

end OwnerIndex

/-- One use of a collector. -/
inductive Collector.Call where
  | process (window : Window) (event : Event)
  | sweep
  | refresh (listed : List EntityInfo)
  | drain

/-- An event with the collector that met it and the window at hand. -/
structure Handling where
  before : Collector
  window : Window
  event : Event

namespace Handling

variable (handling : Handling)

/-- The event as the index of the moment assigns it. -/
def assigned : Event := handling.before.index.assign handling.event

def after : Collector := (handling.before.process handling.window handling.event).1

/-- The window with what the event completed. -/
def recorded : Window := (handling.before.process handling.window handling.event).2.1

/-- The operation that the event completed. -/
def operation : Option Operation := (handling.before.process handling.window handling.event).2.2

/-- What the correlator saw of it. -/
def observation : Observation := ⟨handling.before.correlator, handling.assigned⟩

theorem recorded_eq : handling.recorded = handling.window.recordAll handling.operation.toList := rfl

theorem keyAt_observation (stage : Stage) :
    handling.observation.event.keyAt stage = handling.event.keyAt stage :=
  OwnerIndex.keyAt_assign ..

/-- The event completes an operation, and the window at hand records it. The counters of the operation's
entity and slot take it in, as one operation more, and no others change. -/
structure Records (handling : Handling) (operation : Operation) : Prop where
  completed : handling.operation = some operation
  recorded : handling.recorded = handling.window.record operation
  counters : ∀ entity slot, (handling.recorded.countersOf entity).get slot =
    if entity = operation.entity ∧ slot = operation.slot then
      ((handling.window.countersOf entity).get slot).recordOperation operation
    else (handling.window.countersOf entity).get slot
  counted : ((handling.recorded.countersOf operation.entity).get operation.slot).totals.operations =
    ((handling.window.countersOf operation.entity).get operation.slot).totals.operations + 1

/-- The event completes nothing, and the window stays as it is. -/
structure RecordsNothing (handling : Handling) : Prop where
  completed : handling.operation = none
  recorded : handling.recorded = handling.window

variable {handling : Handling}

theorem records_iff {operation : Operation} :
    handling.Records operation ↔ handling.operation = some operation := by
  refine ⟨Records.completed, fun completed => ?_⟩
  have recorded : handling.recorded = handling.window.record operation := by
    rw [recorded_eq, completed]
    rfl
  have counters := handling.window.countersOf_record operation
  rw [← recorded] at counters
  refine ⟨completed, recorded, counters, ?_⟩
  rw [counters, if_pos ⟨rfl, rfl⟩]
  rfl

theorem recordsNothing_iff : handling.RecordsNothing ↔ handling.operation = none :=
  ⟨RecordsNothing.completed, fun completed =>
    ⟨completed, by rw [recorded_eq, completed]; rfl⟩⟩

/-- A finish completes what it makes with the start that waits for its request. -/
theorem operation_of_finishes {stage : Stage}
    (finishes : handling.event.Finishes (handling.event.keyAt stage)) :
    handling.operation =
      (handling.before.correlator.pending.find? (handling.event.keyAt stage)).bind
        (Correlator.pairUp stage handling.assigned) :=
  handling.before.correlator.observe_operation ((OwnerIndex.finishes_assign ..).2 finishes)

end Handling

/-- A collector with the record of its uses. -/
structure CollectorRun where
  collector : Collector
  handled : List Handling := []
  drained : List OutcomeCounts := []

namespace CollectorRun

def step (run : CollectorRun) : Collector.Call → CollectorRun
  | .process window event =>
    { run with
      collector := (run.collector.process window event).1
      handled := run.handled ++ [⟨run.collector, window, event⟩] }
  | .sweep => { run with collector := run.collector.sweep.1 }
  | .refresh listed => { run with collector := run.collector.refresh listed }
  | .drain =>
    { run with
      collector := run.collector.drain.2
      drained := run.drained ++ [run.collector.drain.1] }

/-- The run of some calls on a collector with an index and nothing waiting. -/
def of (horizon : Duration) (maxPending : Nat) (index : OwnerIndex) (calls : List Collector.Call) :
    CollectorRun :=
  calls.foldl step { collector := { correlator := Correlator.new horizon maxPending, index } }

variable {horizon : Duration} {maxPending : Nat} {index : OwnerIndex} {calls : List Collector.Call}

/-- What holds of every event that the calls bring holds of every event that a run handles. -/
theorem event_of_calls {holds : Event → Prop}
    (brought : ∀ window event, Collector.Call.process window event ∈ calls → holds event)
    {handling : Handling} (present : handling ∈ (of horizon maxPending index calls).handled) :
    holds handling.event := by
  unfold of at present
  have general : ∀ run : CollectorRun, (∀ handling ∈ run.handled, holds handling.event) →
      ∀ handling ∈ (calls.foldl step run).handled, holds handling.event := by
    clear present
    induction calls with
    | nil => exact fun _ before => before
    | cons call rest ih =>
      intro run before
      refine ih (fun window event later => brought window event (List.mem_cons_of_mem _ later)) _ ?_
      cases call with
      | process window event =>
        intro handling member
        rcases List.mem_append.1 member with earlier | now
        · exact before handling earlier
        · obtain rfl := List.mem_singleton.1 now
          exact brought window event List.mem_cons_self
      | sweep => exact before
      | refresh listed => exact before
      | drain => exact before
  exact general _ (by simp) handling present

/-! ## The correlator of a run -/

/-- What the correlator saw of a run. -/
def correlation (run : CollectorRun) : Run where
  correlator := run.collector.correlator
  observed := run.handled.map Handling.observation
  drained := run.drained

/-- A call as the correlator sees it; a refresh it does not see. -/
def seen? (run : CollectorRun) : Collector.Call → Option Call
  | .process _ event => some (.observe (run.collector.index.assign event))
  | .sweep => some .sweep
  | .refresh _ => none
  | .drain => some .drain

theorem correlation_step (run : CollectorRun) (call : Collector.Call) :
    (run.step call).correlation = (run.seen? call).toList.foldl Run.step run.correlation := by
  cases call with
  | process window event =>
    simp only [step, correlation, List.map_append, List.map_singleton]
    rfl
  | sweep => rfl
  | refresh listed => rfl
  | drain => rfl

/-- What the correlator saw of a run is a run of its own. -/
theorem correlation_of (horizon : Duration) (maxPending : Nat) (index : OwnerIndex)
    (calls : List Collector.Call) :
    ∃ seen, (of horizon maxPending index calls).correlation = Run.of horizon maxPending seen := by
  have general : ∀ (run : CollectorRun) (seen : List Call),
      run.correlation = Run.of horizon maxPending seen →
      ∃ more, (calls.foldl step run).correlation = Run.of horizon maxPending more := by
    induction calls with
    | nil => exact fun _ seen same => ⟨seen, same⟩
    | cons call rest ih =>
      intro run seen same
      refine ih (run.step call) (seen ++ (run.seen? call).toList) ?_
      rw [correlation_step, same, Run.of, Run.of, List.foldl_append]
  exact general _ [] rfl

theorem observed_of_handled {run : CollectorRun} {j : Nat} {handling : Handling}
    (present : run.handled[j]? = some handling) :
    run.correlation.observed[j]? = some handling.observation := by
  rw [correlation, List.getElem?_map, present, Option.map_some]

/-! ## Pairs -/

/-- Two events of a run that open and close a stage for one request, with no transition of that stage
and request between them. -/
structure Pairs (run : CollectorRun) (stage : Stage) (i j : Nat) (first last : Handling) : Prop where
  earlier : i < j
  first_at : run.handled[i]? = some first
  last_at : run.handled[j]? = some last
  starts : first.event.Starts (last.event.keyAt stage)
  finishes : last.event.Finishes (last.event.keyAt stage)
  quiet : ∀ (m : Nat) (between : Handling), i < m → m < j → run.handled[m]? = some between →
    ¬ between.event.Touches (last.event.keyAt stage)

namespace Pairs

variable {run : CollectorRun} {stage : Stage} {i j : Nat} {first last : Handling}

/-- The correlator saw the two events of a pair as a pair. -/
theorem correlation (pair : run.Pairs stage i j first last) :
    run.correlation.Pairs stage i j first.observation last.observation where
  earlier := pair.earlier
  first_at := observed_of_handled pair.first_at
  last_at := observed_of_handled pair.last_at
  starts := by
    rw [last.keyAt_observation]
    exact (OwnerIndex.starts_assign ..).2 pair.starts
  finishes := by
    rw [last.keyAt_observation]
    exact (OwnerIndex.finishes_assign ..).2 pair.finishes
  quiet m between above below present := by
    rw [CollectorRun.correlation, List.getElem?_map, Option.map_eq_some_iff] at present
    obtain ⟨handling, atM, rfl⟩ := present
    rw [last.keyAt_observation]
    exact fun touched => pair.quiet m handling above below atM ((OwnerIndex.touches_assign ..).1 touched)

theorem of_correlation {observation : Observation} (last_at : run.handled[j]? = some last)
    (pair : run.correlation.Pairs stage i j observation last.observation) :
    ∃ first, first.observation = observation ∧ run.Pairs stage i j first last := by
  have present := pair.first_at
  rw [CollectorRun.correlation, List.getElem?_map, Option.map_eq_some_iff] at present
  obtain ⟨first, first_at, rfl⟩ := present
  have key := last.keyAt_observation stage
  refine ⟨first, rfl, pair.earlier, first_at, last_at, ?_, ?_, ?_⟩
  · have starts := pair.starts
    rw [key] at starts
    exact (OwnerIndex.starts_assign ..).1 starts
  · have finishes := pair.finishes
    rw [key] at finishes
    exact (OwnerIndex.finishes_assign ..).1 finishes
  · intro m between above below atM touched
    refine pair.quiet m _ above below (observed_of_handled atM) ?_
    rw [key]
    exact (OwnerIndex.touches_assign ..).2 touched

end Pairs

section Waiting

variable {stage : Stage} {i j : Nat} {first last : Handling} {start : PendingStart}

/-- What waits for the request of an event is the start of a pair that the event closes. -/
theorem pair_of_waiting (last_at : (of horizon maxPending index calls).handled[j]? = some last)
    (finishes : last.event.Finishes (last.event.keyAt stage))
    (waiting : last.before.correlator.pending.find? (last.event.keyAt stage) = some start) :
    ∃ i first, (of horizon maxPending index calls).Pairs stage i j first last ∧
      start = .ofEvent first.assigned := by
  obtain ⟨seen, same⟩ := correlation_of horizon maxPending index calls
  have seen_at := observed_of_handled last_at
  rw [same] at seen_at
  rw [← last.keyAt_observation] at waiting finishes
  have fresh : Run.WaitsForLatest [] (Correlator.new horizon maxPending) :=
    fun _ _ found => by cases found
  obtain ⟨observation, latest, starts, rfl⟩ :=
    Run.holds_before Run.kept_waitsForLatest fresh seen seen_at _ _ waiting
  obtain ⟨i, pair⟩ := Run.Pairs.of_latest seen_at ((OwnerIndex.finishes_assign ..).2 finishes) latest starts
  rw [← same] at pair
  obtain ⟨first, rfl, ours⟩ := Pairs.of_correlation last_at pair
  exact ⟨i, first, ours, rfl⟩

/-- An operation is completed by the last event of a pair and lasts from the first one to it. -/
theorem pair_of_operation {operation : Operation}
    (last_at : (of horizon maxPending index calls).handled[j]? = some last)
    (completed : last.operation = some operation) :
    ∃ i first, (of horizon maxPending index calls).Pairs operation.stage i j first last ∧
      operation.Spans operation.stage first.assigned last.assigned := by
  have finishes : last.event.Finishes (last.event.keyAt operation.stage) := by
    have closed := last.before.correlator.finishes_of_observe completed
    rw [OwnerIndex.keyAt_assign] at closed
    exact (OwnerIndex.finishes_assign ..).1 closed
  rw [Handling.operation_of_finishes finishes, Option.bind_eq_some_iff] at completed
  obtain ⟨start, waiting, made⟩ := completed
  obtain ⟨i, first, pair, rfl⟩ := pair_of_waiting last_at finishes waiting
  exact ⟨i, first, pair, Correlator.pairUp_ofEvent_iff.1 made⟩

/-- The start that waits when the last event of a pair comes is that of the first one. -/
theorem Pairs.start_eq (pair : (of horizon maxPending index calls).Pairs stage i j first last)
    (waiting : last.before.correlator.pending.find? (last.event.keyAt stage) = some start) :
    start = .ofEvent first.assigned := by
  obtain ⟨i', first', pair', same⟩ := pair_of_waiting pair.last_at pair.finishes waiting
  obtain rfl : i = i' := pair.correlation.first_unique pair'.correlation
  obtain rfl : first = first' := Option.some.inj (pair.first_at.symm.trans pair'.first_at)
  exact same

/-- The start of a pair still waits when the last event comes, unless a full table refused it or it has
grown older than the horizon. -/
theorem Pairs.waits (pair : (of horizon maxPending index calls).Pairs stage i j first last)
    (accepted : ¬ first.observation.Overflows)
    (within : last.before.correlator.watermark.toNat - first.event.timestamp.toNat ≤ horizon.nanos) :
    last.before.correlator.pending.find? (last.event.keyAt stage) = some (.ofEvent first.assigned) := by
  obtain ⟨seen, same⟩ := correlation_of horizon maxPending index calls
  have seen_pair := pair.correlation
  rw [same] at seen_pair
  rw [← OwnerIndex.timestamp_assign first.before.index] at within
  have live := (last.before.correlator.live_iff_age
    (Run.keepsTime_before seen_pair.last_at).1 (.ofEvent first.assigned)).2 within
  have fresh : Run.LiveStartsWait [] (Correlator.new horizon maxPending) :=
    fun _ _ latest => by cases latest
  rw [← last.keyAt_observation]
  exact Run.holds_before Run.kept_liveStartsWait fresh seen seen_pair.last_at _ _ seen_pair.latest
    seen_pair.starts accepted live

end Waiting

end CollectorRun

end StorageTrace
