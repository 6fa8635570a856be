import Mathlib.Data.UInt
import StorageTrace.Proofs.Correlation.Room

/-! # What goes wrong, and how it is counted

What goes wrong with starts and finishes can be read off the pending table: a finish finds no start, an
early one, or none with an entity; a start takes the place of another or does not get in; a start is gone
though nothing has finished it. Every call adds to each count as many as there are of its sort, and no
call adds to two counts for one of them.
-/

namespace StorageTrace

/-- What can go wrong with a start or a finish. -/
inductive Mishap where
  | unmatched
  | expired
  | overflow
  | replaced
  | unattributed
  | skewed
  deriving DecidableEq, Repr

namespace Mishap

/-- What the counts say of a mishap. -/
def counted : Mishap → OutcomeCounts → UInt64
  | .unmatched, counts => counts.unmatched
  | .expired, counts => counts.expired
  | .overflow, counts => counts.overflow
  | .replaced, counts => counts.replaced
  | .unattributed, counts => counts.unattributed
  | .skewed, counts => counts.skewed

end Mishap

/-- The mishap that has become of a transition, if it is one. -/
def Fate.mishap? : Fate → Option Mishap
  | .waits | .matched => none
  | .replaces => some .replaced
  | .unmatched => some .unmatched
  | .skewed => some .skewed
  | .unattributed => some .unattributed

theorem Mishap.counted_note (mishap : Mishap) (counts : OutcomeCounts) (fate : Fate) :
    mishap.counted (counts.note fate) =
      mishap.counted counts + UInt64.ofNat (fate.mishap?.toList.count mishap) := by
  cases fate <;> cases mishap <;> simp [counted, OutcomeCounts.note, Fate.mishap?]

/-- What goes wrong at a transition of the event, by the tables before and after it. -/
def Event.mishap? (event : Event) (before after : Table StageKey PendingStart) :
    Stage × Edge → Option Mishap
  | (stage, .finish) => (event.fate (before.find? (event.keyAt stage)) .finish).mishap?
  | (stage, .start) =>
    if before.contains (event.keyAt stage) then some .replaced
    else if after.contains (event.keyAt stage) then none
    else some .overflow

/-- The keys whose starts are gone. -/
def dropped (before after : Table StageKey PendingStart) : List StageKey :=
  before.keys.filter fun key => !after.contains key

theorem dropped_eq_nil {before after : Table StageKey PendingStart}
    (kept : ∀ key ∈ before.keys, after.contains key = true) : dropped before after = [] := by
  rw [dropped, List.filter_eq_nil_iff]
  intro key member
  simp [kept key member]

/-- A key that was not there before makes no difference to what is gone. -/
theorem dropped_insert {before after : Table StageKey PendingStart} {key : StageKey}
    {start : PendingStart} (absent : before.contains key = false) :
    dropped before (after.insert key start) = dropped before after := by
  refine List.filter_congr fun other member => ?_
  have differs : other ≠ key := by
    rintro rfl
    rw [Table.mem_keys_iff] at member
    exact Bool.eq_false_iff.1 absent member
  rw [Table.contains, Table.contains, Table.find?_insert, if_neg differs]

/-- A filter drops as many keys as its table gets smaller by. -/
theorem length_dropped_filter (table : Table StageKey PendingStart)
    (keep : StageKey → PendingStart → Bool) :
    (dropped table (table.filter keep)).length = table.size - (table.filter keep).size := by
  rw [table.size_sub_filter, dropped, ← List.countP_eq_length_filter, Table.keys, List.countP_map]
  refine List.countP_congr fun entry member => ?_
  have stored := (table.find?_eq_some_iff entry.1 entry.2).2 member
  simp [Table.contains, Table.find?_filter, stored, Option.isSome_filter]

/-- Expiries, one for each key of a list. -/
def expiries (keys : List StageKey) : List Mishap := keys.map fun _ => .expired

theorem count_expiries (keys : List StageKey) (mishap : Mishap) :
    (expiries keys).count mishap = if mishap = .expired then keys.length else 0 := by
  rw [expiries, List.map_const', List.count_replicate]
  cases mishap <;> rfl

namespace Correlator

variable (correlator : Correlator)

/-- What goes wrong when an event is observed. What the event finishes itself has not expired. -/
def mishaps (event : Event) : List Mishap :=
  let after := (correlator.observe event).1.pending
  event.probe.transitions.filterMap (event.mishap? correlator.pending after) ++
    expiries ((dropped correlator.pending after).filter fun key => ¬ event.Finishes key)

/-- What goes wrong at a sweep. -/
def sweepMishaps : List Mishap := expiries (dropped correlator.pending correlator.sweep.1.pending)

/-- The counts of the right correlator exceed those of the left one by some mishaps. -/
def Notes (before after : Correlator) (mishaps : List Mishap) : Prop :=
  ∀ mishap : Mishap, mishap.counted after.counts =
    mishap.counted before.counts + UInt64.ofNat (mishaps.count mishap)

theorem Notes.trans {first second third : Correlator} {earlier later : List Mishap}
    (left : Notes first second earlier) (right : Notes second third later) :
    Notes first third (earlier ++ later) := by
  intro mishap
  rw [right mishap, left mishap, List.count_append, UInt64.ofNat_add, UInt64.add_assoc]

theorem notes_sweep : Notes correlator correlator.sweep.1 correlator.sweepMishaps := by
  intro mishap
  have gone : (dropped correlator.pending correlator.sweep.1.pending).length = correlator.sweep.2 :=
    length_dropped_filter _ _
  rw [sweepMishaps, count_expiries, gone]
  cases mishap <;> simp [Mishap.counted, sweep]

theorem notes_makeRoom :
    Notes correlator correlator.makeRoom
      (expiries (dropped correlator.pending correlator.makeRoom.pending)) := by
  unfold makeRoom
  split
  · exact correlator.notes_sweep
  · rw [dropped_eq_nil fun key member => (Table.mem_keys_iff _ _).1 member]
    intro mishap
    simp [expiries]

/-- A start notes what becomes of it, and the starts that make room for it. -/
theorem notes_start (stage : Stage) (event : Event) :
    let after := (correlator.start stage event).pending
    Notes correlator (correlator.start stage event)
      ((event.mishap? correlator.pending after (stage, .start)).toList ++
        expiries (dropped correlator.pending after)) := by
  have room := correlator.notes_makeRoom
  rcases correlator.start_cases stage event with
    ⟨present, same⟩ | ⟨absent, _, same⟩ | ⟨absent, _, same⟩ <;> rw [same] <;> dsimp only
  · have kept : ∀ key ∈ correlator.pending.keys,
        (correlator.pending.insert (event.keyAt stage) (.ofEvent event)).contains key = true := by
      intro key member
      rw [Table.mem_keys_iff] at member
      rw [Table.contains, Table.find?_insert]
      split
      · rfl
      · exact member
    rw [dropped_eq_nil kept, Event.mishap?, if_pos present]
    intro mishap
    cases mishap <;> simp [Mishap.counted, expiries]
  · have stored : (correlator.makeRoom.pending.insert (event.keyAt stage) (.ofEvent event)).contains
        (event.keyAt stage) = true := by
      rw [Table.contains, Table.find?_insert, if_pos rfl]
      rfl
    rw [dropped_insert absent, Event.mishap?, absent, if_neg Bool.false_ne_true, if_pos stored]
    exact room
  · have refused := correlator.contains_makeRoom absent
    rw [Event.mishap?, absent, if_neg Bool.false_ne_true, refused, if_neg Bool.false_ne_true]
    intro mishap
    have noted := room mishap
    rw [List.count_append, UInt64.ofNat_add]
    cases mishap <;> simp [Mishap.counted] at noted ⊢ <;> grind

/-- A finish notes what becomes of it. -/
theorem notes_finish (stage : Stage) (event : Event) (after : Table StageKey PendingStart) :
    Notes correlator (correlator.finish stage event).1
      (event.mishap? correlator.pending after (stage, .finish)).toList := by
  intro mishap
  rw [counts_finish, Mishap.counted_note]
  rfl

/-! ## Events -/

section Observe

variable {event : Event} {stage next : Stage}

/-- What a table loses of all but the key that is finished, it loses of the starts that the finish leaves. -/
theorem dropped_finish (own : ∀ key, event.Finishes key ↔ key = event.keyAt stage)
    (after : Table StageKey PendingStart) :
    (dropped correlator.pending after).filter (fun key => ¬ event.Finishes key) =
      dropped ((correlator.advance event).finish stage event).1.pending after := by
  rw [dropped, dropped, pending_finish, Table.keys_erase, List.filter_filter, List.filter_filter]
  refine List.filter_congr fun key _ => ?_
  simp only [own, ne_eq, Bool.and_comm]

/-- All that can go wrong where an event only starts a stage. -/
theorem mishaps_of_start (shape : event.probe.transitions = [(stage, .start)]) :
    let after := (correlator.observe event).1.pending
    correlator.mishaps event =
      (event.mishap? correlator.pending after (stage, .start)).toList ++
        expiries (dropped correlator.pending after) := by
  intro after
  have unfinished : ∀ key, ¬ event.Finishes key := fun key => by simp [Event.finishes_iff, shape]
  have all : (dropped correlator.pending after).filter (fun key => ¬ event.Finishes key) =
      dropped correlator.pending after :=
    List.filter_eq_self.2 fun key _ => decide_eq_true (unfinished key)
  rw [mishaps, all, shape, List.filterMap_cons, List.filterMap_nil]
  cases event.mishap? correlator.pending after (stage, .start) <;> rfl

/-- All that can go wrong where an event only finishes a stage. -/
theorem mishaps_of_finish (shape : event.probe.transitions = [(stage, .finish)])
    (same : correlator.observe event = (correlator.advance event).finish stage event) :
    let after := (correlator.observe event).1.pending
    correlator.mishaps event = (event.mishap? correlator.pending after (stage, .finish)).toList := by
  intro after
  have own : ∀ key, event.Finishes key ↔ key = event.keyAt stage := fun key => by
    simp [Event.finishes_iff, shape]
  have left : ((correlator.advance event).finish stage event).1.pending = after := by rw [← same]
  have none : (dropped correlator.pending after).filter (fun key => ¬ event.Finishes key) = [] := by
    rw [correlator.dropped_finish own, left]
    exact dropped_eq_nil fun key member => (Table.mem_keys_iff _ _).1 member
  rw [mishaps, none, shape, List.filterMap_cons, List.filterMap_nil]
  cases event.mishap? correlator.pending after (stage, .finish) <;> rfl

/-- All that can go wrong where an event finishes a stage and starts another, with the table in between. -/
theorem mishaps_of_handover (differ : next ≠ stage)
    (shape : event.probe.transitions = [(stage, .finish), (next, .start)]) :
    let between := ((correlator.advance event).finish stage event).1.pending
    let after := (correlator.observe event).1.pending
    correlator.mishaps event =
      (event.mishap? correlator.pending after (stage, .finish)).toList ++
        ((event.mishap? between after (next, .start)).toList ++ expiries (dropped between after)) := by
  intro between after
  have own : ∀ key, event.Finishes key ↔ key = event.keyAt stage := fun key => by
    simp [Event.finishes_iff, shape]
  -- the start meets the table that the finish leaves, which has its key if and only if the first has
  have other : event.keyAt next ≠ event.keyAt stage := fun equal => differ (congrArg Prod.fst equal)
  have found : correlator.pending.contains (event.keyAt next) = between.contains (event.keyAt next) := by
    rw [Table.contains, Table.contains, find?_finish, if_neg other]
    rfl
  have started : event.mishap? correlator.pending after (next, .start) =
      event.mishap? between after (next, .start) := by
    rw [Event.mishap?, Event.mishap?, found]
  rw [mishaps, correlator.dropped_finish own, shape, List.filterMap_cons, List.filterMap_cons,
    List.filterMap_nil, started]
  cases event.mishap? correlator.pending after (stage, .finish) <;>
    cases event.mishap? between after (next, .start) <;> rfl

end Observe

/-- An event notes what goes wrong when it is observed. -/
theorem notes_observe (event : Event) :
    Notes correlator (correlator.observe event).1 (correlator.mishaps event) := by
  have advanced : Notes correlator (correlator.advance event) [] := fun mishap => by simp [advance]
  rcases correlator.observe_cases event with
    ⟨stage, shape, same⟩ | ⟨stage, shape, same⟩ | ⟨stage, next, differ, shape, same⟩
  · rw [correlator.mishaps_of_start shape, same]
    exact advanced.trans ((correlator.advance event).notes_start stage event)
  · rw [correlator.mishaps_of_finish shape same, same]
    exact advanced.trans ((correlator.advance event).notes_finish stage event _)
  · rw [correlator.mishaps_of_handover differ shape, same]
    exact advanced.trans (((correlator.advance event).notes_finish stage event _).trans
      (((correlator.advance event).finish stage event).1.notes_start next event))

end Correlator

end StorageTrace
