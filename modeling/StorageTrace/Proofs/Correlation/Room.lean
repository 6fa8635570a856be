import StorageTrace.Proofs.Correlation.Transition

/-! # Correlation with room to spare

A start that finds its key in the table or room beside it neither sweeps nor is refused. What an event does
then follows from what waits under its own keys: what is found there afterwards, what becomes of its
transitions, and, with or without room, the operation that it completes.
-/

namespace StorageTrace

/-- What can become of a transition that finds room. -/
inductive Fate where
  | waits
  | replaces
  | matched
  | unmatched
  | skewed
  | unattributed
  deriving DecidableEq, Repr

namespace OutcomeCounts

/-- The counts with what became of one more transition. A start that waits is not counted yet. -/
def note (counts : OutcomeCounts) : Fate → OutcomeCounts
  | .waits => counts
  | .replaces => { counts with replaced := counts.replaced + 1 }
  | .matched => { counts with matched := counts.matched + 1 }
  | .unmatched => { counts with unmatched := counts.unmatched + 1 }
  | .skewed => { counts with skewed := counts.skewed + 1 }
  | .unattributed => { counts with unattributed := counts.unattributed + 1 }

theorem note_comm (counts : OutcomeCounts) (first second : Fate) :
    (counts.note first).note second = (counts.note second).note first := by
  cases first <;> cases second <;> rfl

end OutcomeCounts

namespace Event

/-- What becomes of a transition of the event, given the start that waits under its key. -/
def fate (event : Event) (waiting : Option PendingStart) : Edge → Fate
  | .start => if waiting.isSome then .replaces else .waits
  | .finish =>
    match waiting with
    | none => .unmatched
    | some start =>
      if event.timestamp < start.timestamp then .skewed
      else if (start.entity.or event.entity).isSome then .matched
      else .unattributed

end Event

namespace Correlator

variable (correlator : Correlator)

/-- A start under the key can be taken in without a sweep. -/
def RoomFor (key : StageKey) : Prop :=
  correlator.pending.contains key = true ∨ correlator.pending.size < correlator.maxPending

/-- Every start that an event brings can be taken in without a sweep. -/
def HasRoom (event : Event) : Prop :=
  ∀ stage, (stage, Edge.start) ∈ event.probe.transitions → correlator.RoomFor (event.keyAt stage)

/-- What becomes of the transitions of an event, by what waits under their keys before it. -/
def fates (event : Event) : List Fate :=
  event.probe.transitions.map fun transition =>
    event.fate (correlator.pending.find? (event.keyAt transition.1)) transition.2

theorem RoomFor.spare {correlator : Correlator} {key : StageKey} (room : correlator.RoomFor key)
    (absent : correlator.pending.contains key = false) :
    correlator.pending.size < correlator.maxPending :=
  room.resolve_left (Bool.eq_false_iff.1 absent)

/-- With room, a start is stored under its key and counted if it replaces another. -/
theorem start_of_room {stage : Stage} {event : Event} (room : correlator.RoomFor (event.keyAt stage)) :
    correlator.start stage event =
      { correlator with
        pending := correlator.pending.insert (event.keyAt stage) (.ofEvent event)
        counts := correlator.counts.note
          (event.fate (correlator.pending.find? (event.keyAt stage)) .start) } := by
  rcases correlator.start_cases stage event with
    ⟨present, same⟩ | ⟨absent, _, same⟩ | ⟨absent, full, _⟩
  · have fate : event.fate (correlator.pending.find? (event.keyAt stage)) .start = .replaces :=
      if_pos present
    rw [same, fate]
    rfl
  · have fate : event.fate (correlator.pending.find? (event.keyAt stage)) .start = .waits :=
      if_neg (Bool.eq_false_iff.1 absent)
    rw [same, correlator.makeRoom_eq_self (room.spare absent), fate]
    rfl
  · have spare := room.spare absent
    rw [correlator.makeRoom_eq_self spare] at full
    exact absurd spare (Nat.not_lt.2 full)

theorem counts_finish (stage : Stage) (event : Event) :
    (correlator.finish stage event).1.counts =
      correlator.counts.note
        (event.fate (correlator.pending.find? (event.keyAt stage)) .finish) := by
  rcases correlator.finish_cases stage event with
    ⟨absent, same⟩ |
      ⟨start, found, ⟨skewed, same⟩ | ⟨ordered, owner, same⟩ | ⟨entity, ordered, owner, same⟩⟩
  · rw [same, absent]
    rfl
  · simp only [same, found, Event.fate, if_pos skewed, OutcomeCounts.note]
  · simp only [same, found, Event.fate, if_neg (UInt64.not_lt.2 ordered), owner, Option.isSome_none,
      Bool.false_eq_true, if_false, OutcomeCounts.note]
  · simp only [same, found, Event.fate, if_neg (UInt64.not_lt.2 ordered), owner, Option.isSome_some,
      if_true, OutcomeCounts.note]

/-- The finish of another key takes no room away. -/
theorem RoomFor.finish {correlator : Correlator} {key : StageKey} (room : correlator.RoomFor key)
    {stage : Stage} {event : Event} (other : key ≠ event.keyAt stage) :
    (correlator.finish stage event).1.RoomFor key := by
  refine room.imp ?_ ?_
  · intro present
    rw [Table.contains, find?_finish, if_neg other]
    exact present
  · intro spare
    rw [finish_maxPending]
    exact Nat.lt_of_le_of_lt (correlator.size_finish_le stage event) spare

section Observe

variable {event : Event} (room : correlator.HasRoom event)

include room

/-- With room, an event leaves its start under the key that it starts and nothing under the one that it
finishes, and it does not disturb other keys. -/
theorem find?_observe_of_room (key : StageKey) :
    (correlator.observe event).1.pending.find? key =
      if event.Starts key then some (.ofEvent event)
      else if event.Finishes key then none
      else correlator.pending.find? key := by
  rcases correlator.observe_cases event with
    ⟨stage, shape, same⟩ | ⟨stage, shape, same⟩ | ⟨stage, next, differ, shape, same⟩
  · have spare : (correlator.advance event).RoomFor (event.keyAt stage) := room stage (by simp [shape])
    rw [same, start_of_room _ spare, Table.find?_insert]
    simp [Event.starts_iff, Event.finishes_iff, shape, advance]
  · rw [same, find?_finish]
    simp [Event.starts_iff, Event.finishes_iff, shape, advance]
  · have other : event.keyAt next ≠ event.keyAt stage := fun equal => differ (congrArg Prod.fst equal)
    have spare : (correlator.advance event).RoomFor (event.keyAt next) := room next (by simp [shape])
    rw [same, start_of_room _ (spare.finish other), Table.find?_insert, find?_finish]
    simp [Event.starts_iff, Event.finishes_iff, shape, advance]

/-- With room, an event counts what becomes of its transitions. -/
theorem counts_observe_of_room :
    (correlator.observe event).1.counts =
      (correlator.fates event).foldl OutcomeCounts.note correlator.counts := by
  rcases correlator.observe_cases event with
    ⟨stage, shape, same⟩ | ⟨stage, shape, same⟩ | ⟨stage, next, differ, shape, same⟩
  · have spare : (correlator.advance event).RoomFor (event.keyAt stage) := room stage (by simp [shape])
    rw [same, start_of_room _ spare, fates, shape]
    rfl
  · rw [same, counts_finish, fates, shape]
    rfl
  · have other : event.keyAt next ≠ event.keyAt stage := fun equal => differ (congrArg Prod.fst equal)
    have spare : (correlator.advance event).RoomFor (event.keyAt next) := room next (by simp [shape])
    rw [same, start_of_room _ (spare.finish other), find?_finish, if_neg other, counts_finish, fates, shape]
    rfl

end Observe

/-! ## What an event sees -/

section Alike

variable {left right : Correlator} {event : Event}
  (alike : ∀ stage, left.pending.find? (event.keyAt stage) = right.pending.find? (event.keyAt stage))

include alike

/-- What becomes of the transitions of an event follows from what waits for its request. -/
theorem fates_congr : left.fates event = right.fates event := by
  simp only [fates, alike]

/-- What an event completes follows from what waits for its request. -/
theorem operation_congr : (left.observe event).2 = (right.observe event).2 := by
  by_cases finishes : ∃ stage, event.Finishes (event.keyAt stage)
  · obtain ⟨stage, finishes⟩ := finishes
    rw [left.observe_operation finishes, right.observe_operation finishes, alike]
  · have none : ∀ correlator : Correlator, (correlator.observe event).2 = none := fun correlator =>
      Option.eq_none_iff_forall_ne_some.2 fun operation completed =>
        finishes ⟨operation.stage, correlator.finishes_of_observe completed⟩
    rw [none, none]

end Alike

end Correlator

end StorageTrace
