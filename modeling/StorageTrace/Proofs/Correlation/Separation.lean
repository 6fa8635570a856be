import Mathlib.Data.Finset.Card
import Mathlib.Data.List.Induction
import StorageTrace.Proofs.Correlation.Room
import StorageTrace.Proofs.Correlation.Run

/-! # Requests do not interfere

If the table is large enough for all the keys that are ever started, no start meets a full table, and no
sweep is forced. Each request is then served as if it were alone: its events meet the same starts, so they
complete the same operations and come to the same fates. The order in which events of different requests
arrive shows neither in the table nor in the counts.
-/

namespace StorageTrace

/-- Lists with the same elements in every class are rearrangements of each other. -/
theorem perm_of_filter_eq {α β : Type} [DecidableEq β] (classOf : α → β) {left right : List α}
    (same : ∀ one, left.filter (classOf · = one) = right.filter (classOf · = one)) :
    left.Perm right := by
  classical
  rw [List.perm_iff_count]
  intro element
  have counts := congrArg (List.count element) (same (classOf element))
  rwa [List.count_filter (by simp), List.count_filter (by simp)] at counts

namespace Event

/-- The events of one request. -/
def ofRequest (key : RequestKey) (events : List Event) : List Event :=
  events.filter (RequestKey.ofEvent · = key)

/-- The keys that some events start. -/
def opened (events : List Event) : Finset StageKey :=
  (events.flatMap fun event =>
    (event.probe.transitions.filter (·.2 = .start)).map fun transition => event.keyAt transition.1).toFinset

theorem mem_opened_iff {events : List Event} {key : StageKey} :
    key ∈ opened events ↔ ∃ event ∈ events, event.Starts key := by
  simp [opened, starts_iff, eq_comm]

/-- Fewer events start no more keys. -/
theorem card_opened_le {events events' : List Event} {bound : Nat} (fewer : events ⊆ events')
    (bounded : (opened events').card ≤ bound) : (opened events).card ≤ bound := by
  refine (Finset.card_le_card fun key member => ?_).trans bounded
  obtain ⟨event, present, starts⟩ := mem_opened_iff.1 member
  exact mem_opened_iff.2 ⟨event, fewer present, starts⟩

end Event

namespace Observation

/-- What becomes of the transitions of the event. -/
def fates (observation : Observation) : List Fate := observation.before.fates observation.event

/-- What the observation has to show for its event. -/
def outcome (observation : Observation) : Event × List Fate × Option Operation :=
  (observation.event, observation.fates, observation.operation)

end Observation

namespace Run

variable {horizon : Duration} {maxPending : Nat}

/-- The run that observes some events and does nothing else. -/
def observing (horizon : Duration) (maxPending : Nat) (events : List Event) : Run :=
  of horizon maxPending (events.map .observe)

/-- The operations that a run emits. -/
def emitted (run : Run) : List Operation := run.observed.filterMap (·.operation)

/-- The operations that a run emits at the events of one request. -/
def emittedFor (run : Run) (key : RequestKey) : List Operation :=
  (run.observed.filter (RequestKey.ofEvent ·.event = key)).filterMap (·.operation)

theorem observing_append (events : List Event) (event : Event) :
    observing horizon maxPending (events ++ [event]) =
      (observing horizon maxPending events).step (.observe event) := by
  rw [observing, List.map_append, List.map_singleton, of, List.foldl_append]
  rfl

/-! ## Room -/

/-- Whatever waits has been started. -/
theorem mem_opened_of_waiting {events : List Event} {key : StageKey} {start : PendingStart}
    (waiting : (observing horizon maxPending events).correlator.pending.find? key = some start) :
    key ∈ Event.opened events := by
  induction events using List.reverseRecOn generalizing start with
  | nil => cases waiting
  | append_singleton events event ih =>
    rw [observing_append] at waiting
    rw [Event.mem_opened_iff]
    by_cases starts : event.Starts key
    · exact ⟨event, by simp, starts⟩
    · have untouched : ¬ event.Touches key := by
        rintro (starts' | finishes)
        · exact starts starts'
        · have gone := Correlator.find?_observe_of_finishes
            (observing horizon maxPending events).correlator finishes
          rw [step, gone] at waiting
          cases waiting
      have before := Correlator.find?_of_observe _ untouched waiting
      obtain ⟨earlier, member, starts'⟩ := Event.mem_opened_iff.1 (ih before)
      exact ⟨earlier, by simp [member], starts'⟩

theorem maxPending_observing (events : List Event) :
    (observing horizon maxPending events).correlator.maxPending = maxPending := by
  induction events using List.reverseRecOn with
  | nil => rfl
  | append_singleton events event ih =>
    rw [observing_append]
    exact (Correlator.observe_maxPending _ event).trans ih

/-- A table that is large enough for the keys that are started has room for each of them. -/
theorem room_observing (horizon : Duration) {events : List Event} {event : Event}
    (bounded : (Event.opened (events ++ [event])).card ≤ maxPending) :
    (observing horizon maxPending events).correlator.HasRoom event := by
  intro stage present
  let pending := (observing horizon maxPending events).correlator.pending
  let key := event.keyAt stage
  by_cases stored : pending.contains key = true
  · exact .inl stored
  · -- the key that is about to be started and those that wait are all different and all started
    have absent : key ∉ pending.keys := by rwa [Table.mem_keys_iff]
    have distinct : (key :: pending.keys).Nodup := List.nodup_cons.2 ⟨absent, pending.distinct⟩
    have started : (key :: pending.keys).toFinset ⊆ Event.opened (events ++ [event]) := by
      intro other member
      rw [Event.mem_opened_iff]
      rcases List.mem_cons.1 (List.mem_toFinset.1 member) with rfl | waits
      · exact ⟨event, by simp, Event.starts_iff.2 ⟨stage, present, rfl⟩⟩
      · obtain ⟨start, waiting⟩ := Option.isSome_iff_exists.1 ((pending.mem_keys_iff other).1 waits)
        obtain ⟨earlier, before, starts⟩ := Event.mem_opened_iff.1 (mem_opened_of_waiting waiting)
        exact ⟨earlier, by simp [before], starts⟩
    have fits := Finset.card_le_card started
    rw [List.toFinset_card_of_nodup distinct, List.length_cons, Table.keys, List.length_map] at fits
    right
    rw [maxPending_observing]
    exact Nat.lt_of_lt_of_le fits bounded

/-! ## One request at a time -/

/-- Of one request, a run knows the same as another: what waits for it, and the outcomes of its events,
which are the only ones that the other run has seen. -/
structure Mirrors (key : RequestKey) (whole own : Run) : Prop where
  waiting : ∀ stage,
    whole.correlator.pending.find? (stage, key) = own.correlator.pending.find? (stage, key)
  outcomes : (whole.observed.filter (RequestKey.ofEvent ·.event = key)).map (·.outcome) =
    own.observed.map (·.outcome)

section Mirrors

variable {key : RequestKey} {whole own : Run} {event : Event}

/-- An event of the request has the same outcome in both runs. -/
theorem Mirrors.observe (mirrors : Mirrors key whole own) (mine : RequestKey.ofEvent event = key)
    (room : whole.correlator.HasRoom event) (room' : own.correlator.HasRoom event) :
    Mirrors key (whole.step (.observe event)) (own.step (.observe event)) := by
  subst mine
  have same : (Observation.mk whole.correlator event).outcome =
      (Observation.mk own.correlator event).outcome := by
    have fates : whole.correlator.fates event = own.correlator.fates event :=
      Correlator.fates_congr mirrors.waiting
    have operation : (whole.correlator.observe event).2 = (own.correlator.observe event).2 :=
      Correlator.operation_congr mirrors.waiting
    simp only [Observation.outcome, Observation.fates, Observation.operation, fates, operation]
  refine ⟨?_, ?_⟩
  · intro stage
    simp only [step]
    rw [Correlator.find?_observe_of_room _ room, Correlator.find?_observe_of_room _ room',
      mirrors.waiting]
  · simp only [step, List.filter_append, List.map_append, mirrors.outcomes]
    simp [same]

/-- An event of another request shows nothing of itself to this one. -/
theorem Mirrors.observe_other (mirrors : Mirrors key whole own) (other : RequestKey.ofEvent event ≠ key)
    (room : whole.correlator.HasRoom event) : Mirrors key (whole.step (.observe event)) own := by
  refine ⟨?_, ?_⟩
  · intro stage
    have unstarted : ¬ event.Starts (stage, key) := fun starts => other starts.2
    have unfinished : ¬ event.Finishes (stage, key) := fun finishes => other finishes.2
    simp only [step]
    rw [Correlator.find?_observe_of_room _ room, if_neg unstarted, if_neg unfinished]
    exact mirrors.waiting stage
  · rw [← mirrors.outcomes]
    simp [step, other]

/-- In a table that is large enough, the events of a request fare as they would in a run of their own. -/
theorem mirrors_observing (key : RequestKey) {events : List Event}
    (bounded : (Event.opened events).card ≤ maxPending) :
    Mirrors key (observing horizon maxPending events)
      (observing horizon maxPending (Event.ofRequest key events)) := by
  induction events using List.reverseRecOn with
  | nil => exact ⟨fun _ => rfl, rfl⟩
  | append_singleton events event ih =>
    have mirrors := ih (Event.card_opened_le (List.subset_append_left _ _) bounded)
    have room := room_observing horizon bounded
    by_cases mine : RequestKey.ofEvent event = key
    · have more : Event.ofRequest key (events ++ [event]) = Event.ofRequest key events ++ [event] := by
        simp [Event.ofRequest, mine]
      have ownBounded : (Event.opened (Event.ofRequest key (events ++ [event]))).card ≤ maxPending :=
        Event.card_opened_le (List.filter_subset_self _) bounded
      rw [more] at ownBounded
      have room' := room_observing horizon ownBounded
      rw [more, observing_append, observing_append]
      exact mirrors.observe mine room room'
    · have none : Event.ofRequest key (events ++ [event]) = Event.ofRequest key events := by
        simp [Event.ofRequest, mine]
      rw [none, observing_append]
      exact mirrors.observe_other mine room

end Mirrors

/-! ## Counts -/

/-- In a table that is large enough, the counts are those of the fates of all transitions. -/
theorem counts_observing {events : List Event} (bounded : (Event.opened events).card ≤ maxPending) :
    (observing horizon maxPending events).correlator.counts =
      ((observing horizon maxPending events).observed.flatMap (·.fates)).foldl OutcomeCounts.note {} := by
  induction events using List.reverseRecOn with
  | nil => rfl
  | append_singleton events event ih =>
    have before := ih (Event.card_opened_le (List.subset_append_left _ _) bounded)
    have room := room_observing horizon bounded
    rw [observing_append]
    simp only [step, List.flatMap_append, List.foldl_append, List.flatMap_singleton, ← before]
    exact Correlator.counts_observe_of_room _ room

/-! ## Rearranged events -/

/-- What a run emits for a request can be told from the outcomes of its events. -/
theorem Mirrors.emittedFor_eq {key : RequestKey} {whole own : Run} (mirrors : Mirrors key whole own) :
    whole.emittedFor key = own.emitted := by
  have operations := congrArg (List.filterMap fun outcome => outcome.2.2) mirrors.outcomes
  rw [List.filterMap_map, List.filterMap_map] at operations
  exact operations

/-- In a run without sweeps, let the table be large enough for all keys that are started. Then each request
has the same operations as in a run of its own events on a new correlator. So if the events come in
another order that keeps the order of each request, each request has the same operations, the same starts
wait at the end, and all counts are the same. -/
theorem requests_do_not_interfere (horizon : Duration) (maxPending : Nat) (events : List Event)
    (bounded : (Event.opened events).card ≤ maxPending) :
    let run := observing horizon maxPending
    (∀ key, (run events).emittedFor key = (run (Event.ofRequest key events)).emitted) ∧
    ∀ events', (∀ key, Event.ofRequest key events' = Event.ofRequest key events) →
      (∀ key, (run events').emittedFor key = (run events).emittedFor key) ∧
      (∀ key, (run events').correlator.pending.find? key = (run events).correlator.pending.find? key) ∧
      (run events').correlator.counts = (run events).correlator.counts := by
  intro run
  have alone : ∀ key, Mirrors key (run events) (run (Event.ofRequest key events)) := fun key =>
    mirrors_observing key bounded
  refine ⟨fun key => (alone key).emittedFor_eq, ?_⟩
  intro events' same
  have rearranged : events'.Perm events := perm_of_filter_eq RequestKey.ofEvent same
  have bounded' : (Event.opened events').card ≤ maxPending :=
    Event.card_opened_le rearranged.subset bounded
  have alone' : ∀ key, Mirrors key (run events') (run (Event.ofRequest key events)) := fun key =>
    same key ▸ mirrors_observing key bounded'
  refine ⟨?_, ?_, ?_⟩
  · intro key
    rw [(alone key).emittedFor_eq, (alone' key).emittedFor_eq]
  · rintro ⟨stage, key⟩
    rw [(alone key).waiting, (alone' key).waiting]
  · -- the same outcomes come in another order, and the order in which fates are noted does not matter
    have outcomes : ((run events').observed.map (·.outcome)).Perm ((run events).observed.map (·.outcome)) := by
      refine perm_of_filter_eq (fun outcome => RequestKey.ofEvent outcome.1) fun key => ?_
      rw [List.filter_map, List.filter_map]
      exact (alone' key).outcomes.trans (alone key).outcomes.symm
    have fates : ((run events').observed.flatMap (·.fates)).Perm ((run events).observed.flatMap (·.fates)) := by
      have noted := outcomes.flatMap_right fun outcome => outcome.2.1
      rwa [List.flatMap_map, List.flatMap_map] at noted
    rw [counts_observing bounded', counts_observing bounded]
    exact fates.foldl_eq' (fun first _ second _ counts => OutcomeCounts.note_comm counts first second) _

/-- The entry of a task into a read and its exit, one after the other. -/
def readOf (tid : UInt32) : List Event :=
  [{ probe := .readEntry, timestamp := 10, tid, entity := some "a" },
    { probe := .readExit, timestamp := 20, tid }]

/-- The reads of two tasks, one within the other. -/
def nestedReads : List Event :=
  [{ probe := .readEntry, timestamp := 10, tid := 1, entity := some "a" }] ++ readOf 2 ++
    [{ probe := .readExit, timestamp := 20, tid := 1 }]

theorem requests_do_not_interfere_nested :
    let run := observing ⟨1⟩ 2
    (run nestedReads).emittedFor (.task 1 .read) = (run (readOf 1)).emitted ∧
      (run (readOf 1)).emitted.length = 1 ∧
      (run (readOf 1 ++ readOf 2)).correlator.counts = (run nestedReads).correlator.counts ∧
      (run nestedReads).correlator.counts.matched = 2 := by
  intro run
  have bounded : (Event.opened nestedReads).card ≤ 2 := by decide
  have same : ∀ key, Event.ofRequest key (readOf 1 ++ readOf 2) = Event.ofRequest key nestedReads := by
    intro key
    by_cases first : RequestKey.task 1 .read = key
    · subst first
      rfl
    · by_cases second : RequestKey.task 2 .read = key
      · subst second
        rfl
      · simp [Event.ofRequest, readOf, nestedReads, RequestKey.ofEvent, Probe.taskScoped, first, second]
  obtain ⟨alone, alike⟩ := requests_do_not_interfere ⟨1⟩ 2 nestedReads bounded
  obtain ⟨_, _, counts⟩ := alike (readOf 1 ++ readOf 2) same
  exact ⟨alone (.task 1 .read), rfl, counts, rfl⟩

end Run

end StorageTrace
