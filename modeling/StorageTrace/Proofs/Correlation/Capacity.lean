import StorageTrace.Proofs.Correlation.Retention
import StorageTrace.Proofs.Correlation.Room

/-! # Capacity of the pending table

The table never outgrows its bound and holds no start later than the watermark. Only a start needs
room, and one is refused only after a sweep that left the table full of live starts. The issue of a
block request gives back the room of its queue start before its device start asks for any, so it is
never refused while that queue start waits.
-/

namespace StorageTrace

namespace OutcomeCounts

@[simp] theorem note_overflow (counts : OutcomeCounts) (fate : Fate) :
    (counts.note fate).overflow = counts.overflow := by
  cases fate <;> rfl

@[simp] theorem note_expired (counts : OutcomeCounts) (fate : Fate) :
    (counts.note fate).expired = counts.expired := by
  cases fate <;> rfl

end OutcomeCounts

namespace Correlator

variable {correlator : Correlator}

theorem size_sweep_le (correlator : Correlator) :
    correlator.sweep.1.pending.size ≤ correlator.pending.size :=
  Table.size_filter_le _ _

theorem size_makeRoom_le (correlator : Correlator) :
    correlator.makeRoom.pending.size ≤ correlator.pending.size := by
  unfold makeRoom
  split
  · exact correlator.size_sweep_le
  · exact Nat.le_refl _

@[simp] theorem makeRoom_overflow (correlator : Correlator) :
    correlator.makeRoom.counts.overflow = correlator.counts.overflow := by
  unfold makeRoom; split <;> rfl

/-- Everything that a sweep leaves is live. -/
theorem live_of_sweep (correlator : Correlator) {key : StageKey} {start : PendingStart}
    (kept : correlator.sweep.1.pending.find? key = some start) : correlator.Live start := by
  rw [find?_sweep, Option.filter_eq_some_iff] at kept
  have recent : correlator.cutoff ≤ start.timestamp := of_decide_eq_true kept.2
  exact recent

/-! ## What every call keeps -/

/-- The table is within its bound and holds no start later than the watermark. -/
structure Disciplined (correlator : Correlator) : Prop where
  bounded : correlator.pending.size ≤ correlator.maxPending
  seen : ∀ key start, correlator.pending.find? key = some start →
    start.timestamp ≤ correlator.watermark

namespace Disciplined

theorem advance (kept : correlator.Disciplined) (event : Event) :
    (correlator.advance event).Disciplined where
  bounded := kept.bounded
  seen key start waiting := UInt64.le_trans (kept.seen key start waiting) (left_le_max _ _)

theorem sweep (kept : correlator.Disciplined) : correlator.sweep.1.Disciplined where
  bounded := Nat.le_trans correlator.size_sweep_le kept.bounded
  seen key start waiting := kept.seen key start (correlator.find?_of_sweep waiting)

theorem finish (kept : correlator.Disciplined) (stage : Stage) (event : Event) :
    (correlator.finish stage event).1.Disciplined where
  bounded := by
    rw [finish_maxPending]
    exact Nat.le_trans (correlator.size_finish_le stage event) kept.bounded
  seen key start waiting := by
    rw [find?_finish] at waiting
    rw [finish_watermark]
    split at waiting
    · cases waiting
    · exact kept.seen key start waiting

/-- A start that the watermark has reached is stored in the place of another, in a table that has
room after it was swept, or not at all. -/
theorem start (kept : correlator.Disciplined) (stage : Stage) {event : Event}
    (reached : event.timestamp ≤ correlator.watermark) :
    (correlator.start stage event).Disciplined where
  bounded := by
    rw [start_maxPending]
    rcases correlator.start_cases stage event with
      ⟨present, same⟩ | ⟨absent, room, same⟩ | ⟨_, _, same⟩ <;> rw [same]
    · change (correlator.pending.insert _ _).size ≤ _
      rw [Table.size_insert, if_pos present]
      exact kept.bounded
    · change (correlator.makeRoom.pending.insert _ _).size ≤ _
      rw [Table.size_insert, correlator.contains_makeRoom absent]
      exact room
    · exact Nat.le_trans correlator.size_makeRoom_le kept.bounded
  seen key start waiting := by
    rw [start_watermark]
    by_cases own : key = event.keyAt stage
    · subst own
      rcases correlator.find?_start_self stage event with stored | ⟨absent, _⟩
      · rw [stored] at waiting
        cases waiting
        exact reached
      · rw [absent] at waiting
        cases waiting
    · exact kept.seen key start (correlator.find?_of_start own waiting)

theorem observe (kept : correlator.Disciplined) (event : Event) :
    (correlator.observe event).1.Disciplined := by
  have advanced := kept.advance event
  have reached : event.timestamp ≤ (correlator.advance event).watermark := right_le_max _ _
  rcases correlator.observe_cases event with
    ⟨stage, _, same⟩ | ⟨stage, _, same⟩ | ⟨stage, next, _, _, same⟩ <;> rw [same]
  · exact advanced.start stage reached
  · exact advanced.finish stage event
  · refine (advanced.finish stage event).start next ?_
    rwa [finish_watermark]

end Disciplined

/-! ## Refusals -/

/-- The table holds as many starts as it may, and all of them are live. -/
def FullOfLive (correlator : Correlator) : Prop :=
  correlator.pending.size = correlator.maxPending ∧
    ∀ key start, correlator.pending.find? key = some start → correlator.Live start

/-- A start is refused only after a sweep that left the table full. -/
theorem fullOfLive_of_start (kept : correlator.Disciplined) {stage : Stage} {event : Event}
    (refused : (correlator.start stage event).counts.overflow ≠ correlator.counts.overflow) :
    (correlator.start stage event).FullOfLive := by
  rcases correlator.start_cases stage event with
    ⟨_, same⟩ | ⟨_, _, same⟩ | ⟨_, full, same⟩ <;> rw [same] at refused ⊢
  · exact absurd rfl refused
  · exact absurd correlator.makeRoom_overflow refused
  · have crowded : correlator.maxPending ≤ correlator.pending.size :=
      Nat.le_trans full correlator.size_makeRoom_le
    have swept : correlator.makeRoom = correlator.sweep.1 := if_pos crowded
    rw [swept] at full ⊢
    -- a sweep moves neither the watermark nor the horizon, so it judges ages as before
    refine ⟨Nat.le_antisymm kept.sweep.bounded full, ?_⟩
    intro key start waiting
    exact correlator.live_of_sweep waiting

/-- An event is refused only by a table that it leaves full of live starts. -/
theorem fullOfLive_of_observe (kept : correlator.Disciplined) {event : Event}
    (refused : (correlator.observe event).1.counts.overflow ≠ correlator.counts.overflow) :
    (correlator.observe event).1.FullOfLive := by
  have advanced := kept.advance event
  rcases correlator.observe_cases event with
    ⟨stage, _, same⟩ | ⟨stage, _, same⟩ | ⟨stage, next, _, _, same⟩ <;> rw [same] at refused ⊢
  · exact fullOfLive_of_start advanced refused
  · exact absurd (finish_overflow _ stage event) refused
  · refine fullOfLive_of_start (advanced.finish stage event) ?_
    rwa [finish_overflow]

/-! ## Handing room over -/

/-- The finish of a waiting start makes room for any other start. -/
theorem roomFor_finish (kept : correlator.Disciplined) {stage : Stage} {event : Event}
    (waiting : correlator.pending.contains (event.keyAt stage) = true) (key : StageKey) :
    (correlator.finish stage event).1.RoomFor key := by
  have smaller := correlator.pending.size_erase _ waiting
  have bounded := kept.bounded
  right
  rw [pending_finish, finish_maxPending]
  omega

/-- What an event does that finishes a waiting start and starts another stage: it counts neither a
refusal nor an expiry, stores its start, and changes nothing under other keys. -/
theorem observe_handover (kept : correlator.Disciplined) {event : Event} {stage next : Stage}
    (shape : event.probe.transitions = [(stage, .finish), (next, .start)])
    (waiting : correlator.pending.contains (event.keyAt stage) = true) :
    (correlator.observe event).1.counts.overflow = correlator.counts.overflow ∧
      (correlator.observe event).1.counts.expired = correlator.counts.expired ∧
      ∀ key, (correlator.observe event).1.pending.find? key =
        if key = event.keyAt next then some (.ofEvent event)
        else if key = event.keyAt stage then none
        else correlator.pending.find? key := by
  have advanced := kept.advance event
  have room := roomFor_finish advanced waiting (event.keyAt next)
  have observed : (correlator.observe event).1 =
      ((correlator.advance event).finish stage event).1.start next event := by
    simp only [observe, shape, List.foldl_cons, List.foldl_nil, apply]
  rw [observed, start_of_room _ room]
  refine ⟨?_, ?_, ?_⟩
  · rw [OutcomeCounts.note_overflow, finish_overflow]
    rfl
  · rw [OutcomeCounts.note_expired, counts_finish, OutcomeCounts.note_expired]
    rfl
  · intro key
    rw [Table.find?_insert, find?_finish]
    rfl

end Correlator

/-- The latest time of some events, and zero if there are none. -/
def IsLatestTime (events : List Event) (time : UInt64) : Prop :=
  (∀ event ∈ events, event.timestamp ≤ time) ∧
    ((events = [] ∧ time = 0) ∨ ∃ event ∈ events, event.timestamp = time)

theorem IsLatestTime.snoc {events : List Event} {time : UInt64} (latest : IsLatestTime events time)
    (event : Event) : IsLatestTime (events ++ [event]) (max time event.timestamp) := by
  obtain ⟨above, attained⟩ := latest
  constructor
  · intro other member
    rcases List.mem_append.1 member with earlier | last
    · exact UInt64.le_trans (above other earlier) (left_le_max _ _)
    · rw [List.mem_singleton.1 last]
      exact right_le_max _ _
  · right
    by_cases later : time ≤ event.timestamp
    · have raised : max time event.timestamp = event.timestamp := if_pos later
      exact ⟨event, by simp, raised.symm⟩
    · have stays : max time event.timestamp = time := if_neg later
      rw [stays]
      rcases attained with ⟨_, rfl⟩ | ⟨first, member, same⟩
      · exact absurd (UInt64.le_iff_toNat_le.2 (Nat.zero_le _)) later
      · exact ⟨first, List.mem_append_left _ member, same⟩

namespace Run

/-- A run keeps the discipline of its table, the bound and the horizon that it was given, and the latest
time of its events. -/
structure KeepsCapacity (horizon : Duration) (maxPending : Nat) (run : Run) : Prop where
  disciplined : run.correlator.Disciplined
  maxPending : run.correlator.maxPending = maxPending
  horizon : run.correlator.horizon = horizon.saturated
  latest : IsLatestTime run.events run.correlator.watermark

variable {horizon : Duration} {maxPending : Nat}

theorem KeepsCapacity.step {run : Run} (kept : run.KeepsCapacity horizon maxPending) (call : Call) :
    (run.step call).KeepsCapacity horizon maxPending := by
  have events := run.events_step call
  cases call with
  | observe event =>
    refine ⟨kept.disciplined.observe event, ?_, ?_, ?_⟩
    · exact (run.correlator.observe_maxPending event).trans kept.maxPending
    · exact (run.correlator.observe_horizon event).trans kept.horizon
    · rw [events]
      change IsLatestTime _ (run.correlator.observe event).1.watermark
      rw [Correlator.observe_watermark]
      exact kept.latest.snoc event
  | sweep => exact ⟨kept.disciplined.sweep, kept.maxPending, kept.horizon, kept.latest⟩
  | drain =>
    -- reading the counts leaves the table and the watermark alone
    exact ⟨⟨kept.disciplined.bounded, kept.disciplined.seen⟩, kept.maxPending, kept.horizon, kept.latest⟩

theorem keepsCapacity_of (horizon : Duration) (maxPending : Nat) (calls : List Call) :
    (of horizon maxPending calls).KeepsCapacity horizon maxPending := by
  refine of_induction (KeepsCapacity horizon maxPending) ?_ (fun _ call kept => kept.step call) calls
  refine ⟨⟨Nat.zero_le _, ?_⟩, rfl, rfl, ⟨by simp [events], .inl ⟨rfl, rfl⟩⟩⟩
  intro key start waiting
  cases waiting

/-- In every state that a run reaches, the table is within its bound, the watermark is the latest time
observed, and no start in the table is later. There an event is refused only if it leaves the table
exactly full with nothing older than the horizon in it; and the issue of a block request whose queue
start waits is never refused, expires nothing, and leaves its device start waiting. -/
theorem capacity_kept (horizon : Duration) (maxPending : Nat) (calls : List Call) :
    let correlator := (of horizon maxPending calls).correlator
    correlator.pending.size ≤ maxPending ∧
      IsLatestTime (calls.filterMap Call.event?) correlator.watermark ∧
      (∀ key start, correlator.pending.find? key = some start →
        start.timestamp ≤ correlator.watermark) ∧
      (∀ event, let after := (correlator.observe event).1
        after.counts.overflow ≠ correlator.counts.overflow →
        after.pending.size = maxPending ∧
          ∀ key start, after.pending.find? key = some start →
            after.watermark.toNat - start.timestamp.toNat ≤ horizon.nanos) ∧
      ∀ event, event.probe = .blockIssue →
        correlator.pending.contains (.queue, .handle event.handle) = true →
        let after := (correlator.observe event).1
        after.counts.overflow = correlator.counts.overflow ∧
          after.counts.expired = correlator.counts.expired ∧
          after.pending.find? (.device, .handle event.handle) = some
            { timestamp := event.timestamp
              direction := event.direction
              bytes := event.bytes
              entity := event.entity } ∧
          ∀ key, key ≠ (.device, .handle event.handle) → key ≠ (.queue, .handle event.handle) →
            after.pending.find? key = correlator.pending.find? key := by
  intro correlator
  have kept := keepsCapacity_of horizon maxPending calls
  have bounded : correlator.pending.size ≤ correlator.maxPending := kept.disciplined.bounded
  refine ⟨kept.maxPending ▸ bounded, events_of calls ▸ kept.latest, kept.disciplined.seen, ?_, ?_⟩
  · intro event after refused
    obtain ⟨full, live⟩ := Correlator.fullOfLive_of_observe kept.disciplined refused
    have bound : after.maxPending = maxPending :=
      (correlator.observe_maxPending event).trans kept.maxPending
    have given : after.horizon = horizon.saturated :=
      (correlator.observe_horizon event).trans kept.horizon
    refine ⟨full.trans bound, ?_⟩
    intro key start waiting
    exact (after.live_iff_age given start).1 (live key start waiting)
  · intro event issue waiting after
    have handled (stage : Stage) : event.keyAt stage = (stage, .handle event.handle) := by
      simp [Event.keyAt, RequestKey.ofEvent, issue, Probe.taskScoped]
    have shape : event.probe.transitions = [(.queue, .finish), (.device, .start)] := by
      rw [issue]
      rfl
    rw [← handled] at waiting
    obtain ⟨overflow, expired, found⟩ := Correlator.observe_handover kept.disciplined shape waiting
    simp only [handled] at found
    refine ⟨overflow, expired, ?_, ?_⟩
    · exact (found _).trans (if_pos rfl)
    · intro key notDevice notQueue
      rw [found, if_neg notDevice, if_neg notQueue]

/-- An insertion and a remote request fill a table for two. -/
def filledTable : List Call :=
  [.observe { probe := .blockInsert, timestamp := 100, handle := 1, entity := some "a" },
    .observe { probe := .remoteIssue, timestamp := 150, handle := 2, entity := some "b" }]

theorem capacity_kept_full :
    let correlator := (of ⟨1000⟩ 2 filledTable).correlator
    let request : Event := { probe := .remoteIssue, timestamp := 1100, handle := 3 }
    let issue : Event := { probe := .blockIssue, timestamp := 9000, handle := 1, bytes := 512 }
    (correlator.observe request).1.pending.size = 2 ∧
      (correlator.observe issue).1.counts.overflow = 0 ∧
      (correlator.observe issue).1.pending.find? (.device, .handle 1) =
        some { timestamp := 9000, direction := .read, bytes := 512, entity := none } ∧
      (correlator.observe issue).1.pending.find? (.remote, .handle 2) =
        some { timestamp := 150, direction := .read, bytes := 0, entity := some "b" } := by
  intro correlator request issue
  obtain ⟨-, -, -, refusal, handover⟩ := capacity_kept ⟨1000⟩ 2 filledTable
  have refused := refusal request (by decide)
  obtain ⟨overflow, -, device, others⟩ := handover issue rfl (by decide)
  exact ⟨refused.1, overflow, device, (others (.remote, .handle 2) (by decide) (by decide)).trans rfl⟩

end Run

end StorageTrace
