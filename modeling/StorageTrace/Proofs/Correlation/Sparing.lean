import Mathlib.Data.List.Induction
import StorageTrace.Proofs.Correlation.Capacity

/-! # What sweeps spare

A run sweeps where it is told to and where an event needs room in a full table. Nothing else looks at the age
of a start: one that was taken in waits until its request is touched again, unless a sweep finds it too old
at the watermark of that time.
-/

namespace StorageTrace

namespace Correlator

variable (correlator : Correlator)

instance (key : StageKey) : Decidable (correlator.RoomFor key) := inferInstanceAs (Decidable (_ ∨ _))

/-- The correlator without what an event finishes. -/
def relieved (event : Event) : Correlator :=
  { correlator with pending := correlator.pending.filter fun key _ => !decide (event.Finishes key) }

/-- The event brings a start for which the table is swept. -/
def Crowded (event : Event) : Prop :=
  ∃ transition ∈ event.probe.transitions, transition.2 = .start ∧
    ¬ (correlator.relieved event).RoomFor (event.keyAt transition.1)

instance (event : Event) : Decidable (correlator.Crowded event) :=
  inferInstanceAs (Decidable (∃ transition ∈ event.probe.transitions, _))

/-! ## What one event spares -/

/-- A start sweeps other keys if and only if there is no room for it. -/
theorem find?_start_other {stage : Stage} {event : Event} {key : StageKey}
    (other : key ≠ event.keyAt stage) :
    (correlator.start stage event).pending.find? key =
      if correlator.RoomFor (event.keyAt stage) then correlator.pending.find? key
      else correlator.sweep.1.pending.find? key := by
  rcases correlator.start_cases stage event with
    ⟨present, same⟩ | ⟨absent, _, same⟩ | ⟨absent, _, same⟩
  · rw [same, if_pos (.inl present)]
    exact (Table.find?_insert ..).trans (if_neg other)
  all_goals
    have room : correlator.RoomFor (event.keyAt stage) ↔ correlator.pending.size < correlator.maxPending :=
      or_iff_right (Bool.eq_false_iff.1 absent)
    simp only [same, room, makeRoom, Table.find?_insert, if_neg other]
    by_cases spare : correlator.pending.size < correlator.maxPending
    · rw [if_pos spare, if_neg (Nat.not_le.2 spare)]
    · rw [if_neg spare, if_pos (Nat.not_lt.1 spare)]

/-- The room for a start is that of the correlator which it meets. -/
theorem roomFor_congr {left right : Correlator} (pending : left.pending = right.pending)
    (maxPending : left.maxPending = right.maxPending) (key : StageKey) :
    left.RoomFor key ↔ right.RoomFor key := by
  rw [RoomFor, RoomFor, pending, maxPending]

theorem pending_relieved_of_start {stage : Stage} {event : Event}
    (shape : event.probe.transitions = [(stage, .start)]) :
    (correlator.relieved event).pending = correlator.pending := by
  have unfinished : ∀ key, ¬ event.Finishes key := fun key => by simp [Event.finishes_iff, shape]
  change correlator.pending.filter (fun key _ => !decide (event.Finishes key)) = correlator.pending
  exact Table.filter_eq_self _ fun key _ => by simp [unfinished]

theorem pending_relieved_of_handover {stage next : Stage} {event : Event}
    (shape : event.probe.transitions = [(stage, .finish), (next, .start)]) :
    (correlator.relieved event).pending = correlator.pending.erase (event.keyAt stage) := by
  have own : ∀ key, event.Finishes key ↔ key = event.keyAt stage := fun key => by
    simp [Event.finishes_iff, shape]
  simp [relieved, Table.filter, Table.erase, own]

/-- An event leaves a key that it does not touch alone, unless it has the table swept at the watermark that
it brings. -/
theorem find?_observe_untouched {event : Event} {key : StageKey} (untouched : ¬ event.Touches key) :
    (correlator.observe event).1.pending.find? key =
      if correlator.Crowded event then (correlator.advance event).sweep.1.pending.find? key
      else correlator.pending.find? key := by
  rcases correlator.observe_cases event with
    ⟨stage, shape, same⟩ | ⟨stage, shape, same⟩ | ⟨stage, next, _, shape, same⟩
  · have apart := Event.ne_keyAt untouched stage .start (by simp [shape])
    have crowded : correlator.Crowded event ↔
        ¬ (correlator.advance event).RoomFor (event.keyAt stage) := by
      have room : (correlator.relieved event).RoomFor (event.keyAt stage) ↔
          (correlator.advance event).RoomFor (event.keyAt stage) :=
        roomFor_congr (correlator.pending_relieved_of_start shape) rfl _
      simp [Crowded, shape, room]
    rw [same, find?_start_other _ apart]
    simp only [crowded, ite_not]
    rfl
  · have apart := Event.ne_keyAt untouched stage .finish (by simp [shape])
    have calm : ¬ correlator.Crowded event := by simp [Crowded, shape]
    rw [same, find?_finish, if_neg apart, if_neg calm]
    rfl
  · have apart := Event.ne_keyAt untouched stage .finish (by simp [shape])
    have apartNext := Event.ne_keyAt untouched next .start (by simp [shape])
    have pending := (correlator.advance event).pending_finish stage event
    have crowded : correlator.Crowded event ↔
        ¬ ((correlator.advance event).finish stage event).1.RoomFor (event.keyAt next) := by
      have room : (correlator.relieved event).RoomFor (event.keyAt next) ↔
          ((correlator.advance event).finish stage event).1.RoomFor (event.keyAt next) :=
        roomFor_congr ((correlator.pending_relieved_of_handover shape).trans pending.symm)
          ((correlator.advance event).finish_maxPending stage event).symm _
      simp [Crowded, shape, room]
    rw [same, find?_start_other _ apartNext]
    simp only [crowded, ite_not, find?_sweep, find?_finish, if_neg apart]
    have cutoff : ((correlator.advance event).finish stage event).1.cutoff =
        (correlator.advance event).cutoff := by
      rw [cutoff, cutoff, finish_watermark, finish_horizon]
    rw [cutoff]
    rfl

/-! ## Refused starts -/

/-- A start that is refused does not wait. -/
theorem find?_start_of_overflow {stage : Stage} {event : Event}
    (refused : (correlator.start stage event).counts.overflow ≠ correlator.counts.overflow) :
    (correlator.start stage event).pending.find? (event.keyAt stage) = none := by
  rcases correlator.start_cases stage event with ⟨_, same⟩ | ⟨_, _, same⟩ | ⟨absent, _, same⟩ <;>
    rw [same] at refused ⊢
  · exact absurd rfl refused
  · exact absurd correlator.makeRoom_overflow refused
  · have still := correlator.contains_makeRoom absent
    rwa [Table.contains, Option.isSome_eq_false_iff, Option.isNone_iff_eq_none] at still

theorem find?_observe_of_overflow {event : Event} {key : StageKey} (starts : event.Starts key)
    (refused : (correlator.observe event).1.counts.overflow ≠ correlator.counts.overflow) :
    (correlator.observe event).1.pending.find? key = none := by
  have present := starts.1
  rcases correlator.observe_cases event with
    ⟨stage, shape, same⟩ | ⟨stage, shape, same⟩ | ⟨stage, next, _, shape, same⟩ <;>
    rw [same] at refused ⊢
  · obtain rfl : key.1 = stage := by simpa [shape] using present
    rw [starts.key_eq]
    exact find?_start_of_overflow _ refused
  · exact absurd (finish_overflow _ stage event) refused
  · obtain rfl : key.1 = next := by simpa [shape] using present
    rw [starts.key_eq]
    refine find?_start_of_overflow _ ?_
    rwa [finish_overflow]

end Correlator

/-- A sweep of a run: how many events it has seen, the first event that meets the table which it leaves, and
the watermark that it goes by. A full table is swept in the middle of an event. -/
structure Sweep where
  seen : Nat
  next : Nat
  watermark : UInt64
  deriving DecidableEq

namespace Sweep

/-- The sweep comes after one event of a run and before another. -/
def Between (sweep : Sweep) (i j : Nat) : Prop := i < sweep.seen ∧ sweep.next ≤ j

/-- A start at a time is within the horizon for the sweep. -/
def Spares (sweep : Sweep) (horizon : Duration) (time : UInt64) : Prop :=
  sweep.watermark.toNat - time.toNat ≤ horizon.nanos

instance (sweep : Sweep) (i j : Nat) : Decidable (sweep.Between i j) :=
  inferInstanceAs (Decidable (_ ∧ _))

instance (sweep : Sweep) (horizon : Duration) (time : UInt64) : Decidable (sweep.Spares horizon time) :=
  inferInstanceAs (Decidable (_ ≤ _))

end Sweep

namespace Run

/-- The sweep that a call brings about. -/
def sweep? (run : Run) : Call → Option Sweep
  | .observe event =>
    if run.correlator.Crowded event then
      some ⟨run.observed.length, run.observed.length + 1, max run.correlator.watermark event.timestamp⟩
    else none
  | .sweep => some ⟨run.observed.length, run.observed.length, run.correlator.watermark⟩
  | .drain => none

/-- The sweeps that some calls bring about, one after the other. -/
def sweepsFrom (run : Run) : List Call → List Sweep
  | [] => []
  | call :: rest => (run.sweep? call).toList ++ sweepsFrom (run.step call) rest

/-- The sweeps of the run of some calls on a new correlator. -/
def sweeps (horizon : Duration) (maxPending : Nat) (calls : List Call) : List Sweep :=
  sweepsFrom { correlator := Correlator.new horizon maxPending } calls

/-! ## One call more -/

section Step

variable (horizon : Duration) (maxPending : Nat) (calls : List Call) (call : Call)

theorem of_concat : of horizon maxPending (calls ++ [call]) = (of horizon maxPending calls).step call :=
  List.foldl_append

theorem sweeps_concat :
    sweeps horizon maxPending (calls ++ [call]) =
      sweeps horizon maxPending calls ++ ((of horizon maxPending calls).sweep? call).toList := by
  unfold sweeps of
  generalize Run.mk _ _ _ = run
  induction calls generalizing run with
  | nil => exact List.append_nil _
  | cons first rest ih =>
    rw [List.cons_append, sweepsFrom, sweepsFrom, ih, List.append_assoc, List.foldl_cons]

theorem observed_step (run : Run) :
    (run.step call).observed =
      run.observed ++ (call.event?.map fun event => ⟨run.correlator, event⟩).toList := by
  cases call <;> simp [step, Call.event?]

theorem horizon_of : (of horizon maxPending calls).correlator.horizon = horizon.saturated :=
  (keepsCapacity_of horizon maxPending calls).horizon

/-- A sweep sees the events so far, and no earlier one meets the table that it leaves. -/
theorem bounds_of_sweep? {run : Run} {sweep : Sweep} (swept : run.sweep? call = some sweep) :
    sweep.seen = run.observed.length ∧ run.observed.length ≤ sweep.next ∧
      sweep.next ≤ (run.step call).observed.length := by
  rw [observed_step]
  cases call with
  | observe event =>
    simp only [sweep?, Option.ite_none_right_eq_some, Option.some.injEq] at swept
    obtain ⟨-, rfl⟩ := swept
    simp [Call.event?]
  | sweep =>
    cases swept
    simp
  | drain => cases swept

theorem bounds_of_mem_sweeps {sweep : Sweep} (member : sweep ∈ sweeps horizon maxPending calls) :
    sweep.seen ≤ (of horizon maxPending calls).observed.length ∧
      sweep.next ≤ (of horizon maxPending calls).observed.length := by
  induction calls using List.reverseRecOn with
  | nil => cases member
  | append_singleton earlier call ih =>
    rw [sweeps_concat, List.mem_append, Option.mem_toList] at member
    have grows : (of horizon maxPending earlier).observed.length ≤
        (of horizon maxPending (earlier ++ [call])).observed.length := by
      rw [of_concat, observed_step, List.length_append]
      exact Nat.le_add_right ..
    rcases member with before | now
    · obtain ⟨seen, next⟩ := ih before
      exact ⟨Nat.le_trans seen grows, Nat.le_trans next grows⟩
    · obtain ⟨seen, -, next⟩ := bounds_of_sweep? call now
      rw [of_concat] at grows ⊢
      exact ⟨seen ▸ grows, next⟩

/-- The events of a run up to one of them, and the sweeps before it, are those of a shorter run. -/
theorem exists_run_before {j : Nat} {last : Observation}
    (present : (of horizon maxPending calls).observed[j]? = some last) :
    ∃ earlier, (of horizon maxPending earlier).correlator = last.before ∧
      (of horizon maxPending earlier).observed = (of horizon maxPending calls).observed.take j ∧
      ∀ sweep, sweep ∈ sweeps horizon maxPending earlier ↔
        sweep ∈ sweeps horizon maxPending calls ∧ sweep.next ≤ j := by
  induction calls using List.reverseRecOn with
  | nil => cases present
  | append_singleton calls call ih =>
    rw [of_concat, observed_step] at present ⊢
    rw [sweeps_concat]
    by_cases before : j < (of horizon maxPending calls).observed.length
    · rw [List.getElem?_append_left before] at present
      obtain ⟨earlier, state, events, swept⟩ := ih present
      refine ⟨earlier, state, ?_, ?_⟩
      · rw [events, List.take_append_of_le_length (Nat.le_of_lt before)]
      · intro sweep
        have late : (of horizon maxPending calls).sweep? call = some sweep → ¬ sweep.next ≤ j := by
          intro now
          obtain ⟨-, next, -⟩ := bounds_of_sweep? call now
          omega
        rw [swept, List.mem_append, Option.mem_toList]
        exact ⟨fun both => ⟨.inl both.1, both.2⟩,
          fun both => ⟨both.1.resolve_right fun now => late now both.2, both.2⟩⟩
    · -- the event is the one that the last call hands over
      cases call with
      | observe event =>
        rw [List.getElem?_append_right (Nat.le_of_not_lt before)] at present
        obtain ⟨here, rfl⟩ : j - (of horizon maxPending calls).observed.length = 0 ∧
            (⟨(of horizon maxPending calls).correlator, event⟩ : Observation) = last := by
          simpa [Call.event?, List.getElem?_singleton] using present
        obtain rfl : j = (of horizon maxPending calls).observed.length := by omega
        refine ⟨calls, rfl, List.take_left.symm, ?_⟩
        intro sweep
        rw [List.mem_append, Option.mem_toList]
        constructor
        · intro member
          exact ⟨.inl member, (bounds_of_mem_sweeps horizon maxPending calls member).2⟩
        · rintro ⟨member | now, next⟩
          · exact member
          · -- a sweep within the event itself comes after what the event finishes
            simp only [sweep?, Option.ite_none_right_eq_some, Option.some.injEq] at now
            obtain ⟨-, rfl⟩ := now
            exact absurd next (Nat.not_succ_le_self _)
      | sweep => simp [Call.event?, before] at present
      | drain => simp [Call.event?, before] at present

end Step

/-! ## What sweeps leave -/

/-- A call leaves a start under a key that it does not touch exactly if it does not sweep or the sweep spares
the start. -/
theorem find?_step_iff {run : Run} {horizon : Duration} (given : run.correlator.horizon = horizon.saturated)
    {call : Call} {key : StageKey} (untouched : ∀ event, call.event? = some event → ¬ event.Touches key)
    (start : PendingStart) :
    (run.step call).correlator.pending.find? key = some start ↔
      run.correlator.pending.find? key = some start ∧
        ∀ sweep, run.sweep? call = some sweep → sweep.Spares horizon start.timestamp := by
  cases call with
  | observe event =>
    have age := (run.correlator.advance event).live_iff_age given start
    change (run.correlator.observe event).1.pending.find? key = some start ↔ _
    rw [run.correlator.find?_observe_untouched (untouched event rfl)]
    by_cases crowded : run.correlator.Crowded event
    · simp only [if_pos crowded, sweep?, Correlator.find?_sweep, Option.filter_eq_some_iff,
        decide_eq_true_eq, Option.some.injEq, forall_eq']
      exact and_congr_right fun _ => age
    · simp [sweep?, crowded]
  | sweep =>
    have age := run.correlator.live_iff_age given start
    simp only [step, sweep?, Correlator.find?_sweep, Option.filter_eq_some_iff, decide_eq_true_eq,
      Option.some.injEq, forall_eq']
    exact and_congr_right fun _ => age
  | drain => simp [step, sweep?, Correlator.drain]

variable {horizon : Duration} {maxPending : Nat} {calls : List Call}

/-- The latest start of a key waits exactly if it was taken in and every sweep since has spared it. -/
theorem waits_iff_spared {i : Nat} {first : Observation} {key : StageKey}
    (first_at : (of horizon maxPending calls).observed[i]? = some first) (starts : first.event.Starts key)
    (quiet : ∀ (m : Nat) (later : Observation), i < m →
      (of horizon maxPending calls).observed[m]? = some later → ¬ later.event.Touches key) :
    (of horizon maxPending calls).correlator.pending.find? key = some (.ofEvent first.event) ↔
      ¬ first.Overflows ∧ ∀ sweep ∈ sweeps horizon maxPending calls, i < sweep.seen →
        sweep.Spares horizon first.event.timestamp := by
  induction calls using List.reverseRecOn with
  | nil => cases first_at
  | append_singleton calls call ih =>
    have grown := observed_step call (of horizon maxPending calls)
    have given := horizon_of horizon maxPending calls
    have bounds := fun sweep (member : sweep ∈ sweeps horizon maxPending calls) =>
      bounds_of_mem_sweeps horizon maxPending calls member
    rw [of_concat] at first_at quiet ⊢
    rw [sweeps_concat]
    rw [grown] at first_at quiet
    generalize of horizon maxPending calls = run at *
    generalize sweeps horizon maxPending calls = swept at *
    by_cases before : i < run.observed.length
    · rw [List.getElem?_append_left before] at first_at
      have earlier := ih first_at fun m later above atM => quiet m later above (by
        rw [List.getElem?_append_left (List.getElem?_eq_some_iff.1 atM).1]
        exact atM)
      have untouched : ∀ event, call.event? = some event → ¬ event.Touches key := by
        intro event handed
        refine quiet run.observed.length ⟨run.correlator, event⟩ before ?_
        rw [handed, List.getElem?_append_right (Nat.le_refl _), Nat.sub_self]
        rfl
      rw [find?_step_iff given untouched, earlier, and_assoc]
      refine and_congr_right fun _ => ⟨?_, ?_⟩
      · rintro ⟨spared, sparedNow⟩ sweep member late
        rcases List.mem_append.1 member with past | now
        · exact spared sweep past late
        · exact sparedNow sweep (Option.mem_toList.1 now)
      · intro spared
        refine ⟨fun sweep past => spared sweep (List.mem_append_left _ past), fun sweep now => ?_⟩
        have seen := (bounds_of_sweep? call now).1
        exact spared sweep (List.mem_append_right _ (Option.mem_toList.2 now)) (seen ▸ before)
    · -- the start is the event that the call hands over, and no sweep has come after it
      cases call with
      | observe event =>
        rw [List.getElem?_append_right (Nat.le_of_not_lt before)] at first_at
        obtain ⟨here, rfl⟩ : i - run.observed.length = 0 ∧
            (⟨run.correlator, event⟩ : Observation) = first := by
          simpa [Call.event?, List.getElem?_singleton] using first_at
        constructor
        · intro waiting
          refine ⟨fun refused => ?_, fun sweep member late => ?_⟩
          · have absent := run.correlator.find?_observe_of_overflow starts refused
            exact absurd (waiting.symm.trans absent) (Option.some_ne_none _)
          · have seen : sweep.seen ≤ run.observed.length := by
              rcases List.mem_append.1 member with past | now
              · exact (bounds sweep past).1
              · exact Nat.le_of_eq (bounds_of_sweep? _ (Option.mem_toList.1 now)).1
            omega
        · rintro ⟨accepted, -⟩
          exact (run.correlator.find?_observe_of_starts starts).resolve_right fun refused =>
            accepted refused.2
      | sweep => simp [Call.event?, before] at first_at
      | drain => simp [Call.event?, before] at first_at

end Run

end StorageTrace
