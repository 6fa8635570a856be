import StorageTrace.Correlator

/-! # What one call does to the pending table

A sweep keeps exactly the live starts. A start stores itself under its key, or is refused and leaves
that key empty; other keys lose nothing but starts that are too old. A finish empties its key and
answers with the operation that it makes with the start found there. An event finishes at most one
stage and then starts at most one other, so what it does to a key follows from whether it starts,
finishes or does not touch that key.
-/

namespace StorageTrace

/-- Under what a start waits. -/
abbrev StageKey := Stage × RequestKey

namespace Event

/-- The key under which the event is matched at a stage. -/
def keyAt (event : Event) (stage : Stage) : StageKey := (stage, RequestKey.ofEvent event)

/-- The event opens the stage of a key for the request of that key. -/
def Starts (event : Event) (key : StageKey) : Prop :=
  (key.1, Edge.start) ∈ event.probe.transitions ∧ RequestKey.ofEvent event = key.2

/-- The event closes the stage of a key for the request of that key. -/
def Finishes (event : Event) (key : StageKey) : Prop :=
  (key.1, Edge.finish) ∈ event.probe.transitions ∧ RequestKey.ofEvent event = key.2

/-- The event has a transition for a key. -/
def Touches (event : Event) (key : StageKey) : Prop := event.Starts key ∨ event.Finishes key

theorem Starts.key_eq {event : Event} {key : StageKey} (starts : event.Starts key) :
    key = event.keyAt key.1 := Prod.ext rfl starts.2.symm

theorem Finishes.key_eq {event : Event} {key : StageKey} (finishes : event.Finishes key) :
    key = event.keyAt key.1 := Prod.ext rfl finishes.2.symm

theorem starts_iff {event : Event} {key : StageKey} :
    event.Starts key ↔ ∃ stage, (stage, Edge.start) ∈ event.probe.transitions ∧ key = event.keyAt stage :=
  ⟨fun starts => ⟨key.1, starts.1, starts.key_eq⟩, fun ⟨_, present, own⟩ => own ▸ ⟨present, rfl⟩⟩

theorem finishes_iff {event : Event} {key : StageKey} :
    event.Finishes key ↔
      ∃ stage, (stage, Edge.finish) ∈ event.probe.transitions ∧ key = event.keyAt stage :=
  ⟨fun finishes => ⟨key.1, finishes.1, finishes.key_eq⟩, fun ⟨_, present, own⟩ => own ▸ ⟨present, rfl⟩⟩

/-- A key that an event does not touch differs from those of its transitions. -/
theorem ne_keyAt {event : Event} {key : StageKey} (untouched : ¬ event.Touches key) (stage : Stage)
    (edge : Edge) (present : (stage, edge) ∈ event.probe.transitions) : key ≠ event.keyAt stage := by
  rintro rfl
  cases edge with
  | start => exact untouched (.inl ⟨present, rfl⟩)
  | finish => exact untouched (.inr ⟨present, rfl⟩)

instance (event : Event) (key : StageKey) : Decidable (event.Starts key) :=
  inferInstanceAs (Decidable (_ ∧ _))

instance (event : Event) (key : StageKey) : Decidable (event.Finishes key) :=
  inferInstanceAs (Decidable (_ ∧ _))

instance (event : Event) (key : StageKey) : Decidable (event.Touches key) :=
  inferInstanceAs (Decidable (_ ∨ _))

end Event

namespace Probe

/-- A probe starts a stage, finishes one, or finishes one and then starts another. -/
theorem transitions_cases (probe : Probe) :
    (∃ stage, probe.transitions = [(stage, .start)]) ∨
      (∃ stage, probe.transitions = [(stage, .finish)]) ∨
      ∃ stage next, next ≠ stage ∧ probe.transitions = [(stage, .finish), (next, .start)] := by
  cases probe with
  | blockInsert => exact .inl ⟨.queue, rfl⟩
  | blockIssue => exact .inr (.inr ⟨.queue, .device, by decide, rfl⟩)
  | blockComplete => exact .inr (.inl ⟨.device, rfl⟩)
  | readEntry => exact .inl ⟨.syscall, rfl⟩
  | readExit => exact .inr (.inl ⟨.syscall, rfl⟩)
  | writeEntry => exact .inl ⟨.syscall, rfl⟩
  | writeExit => exact .inr (.inl ⟨.syscall, rfl⟩)
  | remoteIssue => exact .inl ⟨.remote, rfl⟩
  | remoteComplete => exact .inr (.inl ⟨.remote, rfl⟩)

end Probe

/-- The greater of two words, in terms of their values. -/
theorem toNat_max (left right : UInt64) : (max left right).toNat = max left.toNat right.toNat := by
  change (if left ≤ right then right else left).toNat = _
  rw [Nat.max_def, apply_ite UInt64.toNat]
  simp only [UInt64.le_iff_toNat_le]

theorem left_le_max (left right : UInt64) : left ≤ max left right := by
  rw [UInt64.le_iff_toNat_le, toNat_max]
  exact Nat.le_max_left _ _

theorem right_le_max (left right : UInt64) : right ≤ max left right := by
  rw [UInt64.le_iff_toNat_le, toNat_max]
  exact Nat.le_max_right _ _

private theorem succ_ne_self (count : UInt64) : count + 1 ≠ count := by
  intro equal
  have values := congrArg UInt64.toNat equal
  rw [UInt64.toNat_add, UInt64.toNat_one] at values
  have bound := count.toNat_lt
  omega

namespace Correlator

variable (correlator : Correlator)

/-! ## Sweeps -/

/-- A start that is not too old at the present watermark. -/
def Live (start : PendingStart) : Prop := correlator.cutoff ≤ start.timestamp

/-- The age of a live start is at most the horizon; the cutoff that stops at zero does no harm. -/
theorem live_iff (start : PendingStart) :
    correlator.Live start ↔
      correlator.watermark.toNat ≤ start.timestamp.toNat + correlator.horizon.toNat := by
  unfold Live cutoff
  rw [UInt64.le_iff_toNat_le]
  split
  · rename_i within
    rw [UInt64.toNat_sub_of_le _ _ within]
    rw [UInt64.le_iff_toNat_le] at within
    omega
  · rename_i beyond
    rw [UInt64.le_iff_toNat_le] at beyond
    simp only [UInt64.toNat_zero]
    omega

theorem find?_sweep (key : StageKey) :
    correlator.sweep.1.pending.find? key =
      (correlator.pending.find? key).filter fun start => correlator.cutoff ≤ start.timestamp :=
  Table.find?_filter _ _ _

theorem find?_of_sweep {key : StageKey} {start : PendingStart}
    (kept : correlator.sweep.1.pending.find? key = some start) :
    correlator.pending.find? key = some start := by
  rw [find?_sweep, Option.filter_eq_some_iff] at kept
  exact kept.1

theorem find?_sweep_of_live {key : StageKey} {start : PendingStart}
    (waiting : correlator.pending.find? key = some start) (live : correlator.Live start) :
    correlator.sweep.1.pending.find? key = some start := by
  rw [find?_sweep, Option.filter_eq_some_iff]
  exact ⟨waiting, decide_eq_true live⟩

/-- A sweep counts every start that it drops. -/
theorem size_sweep : correlator.sweep.1.pending.size + correlator.sweep.2 = correlator.pending.size := by
  have smaller : correlator.unexpired.size ≤ correlator.pending.size := Table.size_filter_le _ _
  change correlator.unexpired.size + (correlator.pending.size - correlator.unexpired.size) = _
  omega

/-! ## Starts -/

/-- Sweeps if the table is full. -/
def makeRoom : Correlator :=
  if correlator.maxPending ≤ correlator.pending.size then correlator.sweep.1 else correlator

@[simp] theorem makeRoom_watermark : correlator.makeRoom.watermark = correlator.watermark := by
  unfold makeRoom; split <;> rfl

@[simp] theorem makeRoom_horizon : correlator.makeRoom.horizon = correlator.horizon := by
  unfold makeRoom; split <;> rfl

@[simp] theorem makeRoom_maxPending : correlator.makeRoom.maxPending = correlator.maxPending := by
  unfold makeRoom; split <;> rfl

theorem makeRoom_eq_self (spare : correlator.pending.size < correlator.maxPending) :
    correlator.makeRoom = correlator :=
  if_neg (Nat.not_le.2 spare)

theorem find?_of_makeRoom {key : StageKey} {start : PendingStart}
    (kept : correlator.makeRoom.pending.find? key = some start) :
    correlator.pending.find? key = some start := by
  unfold makeRoom at kept
  split at kept
  · exact correlator.find?_of_sweep kept
  · exact kept

theorem find?_makeRoom_of_live {key : StageKey} {start : PendingStart}
    (waiting : correlator.pending.find? key = some start) (live : correlator.Live start) :
    correlator.makeRoom.pending.find? key = some start := by
  unfold makeRoom
  split
  · exact correlator.find?_sweep_of_live waiting live
  · exact waiting

/-- Making room never brings a start back. -/
theorem contains_makeRoom {key : StageKey} (absent : correlator.pending.contains key = false) :
    correlator.makeRoom.pending.contains key = false := by
  rw [Bool.eq_false_iff] at absent ⊢
  intro present
  obtain ⟨start, found⟩ := (Table.contains_iff _ _).1 present
  exact absent ((Table.contains_iff _ _).2 ⟨start, correlator.find?_of_makeRoom found⟩)

/-- A start replaces the one of its key, is admitted into a table with room, or is refused by one
that is full even after a sweep. -/
theorem start_cases (stage : Stage) (event : Event) :
    (correlator.pending.contains (event.keyAt stage) = true ∧
      correlator.start stage event =
        { correlator with
          pending := correlator.pending.insert (event.keyAt stage) (.ofEvent event)
          counts := { correlator.counts with replaced := correlator.counts.replaced + 1 } }) ∨
    (correlator.pending.contains (event.keyAt stage) = false ∧
      correlator.makeRoom.pending.size < correlator.maxPending ∧
      correlator.start stage event =
        { correlator.makeRoom with
          pending := correlator.makeRoom.pending.insert (event.keyAt stage) (.ofEvent event) }) ∨
    (correlator.pending.contains (event.keyAt stage) = false ∧
      correlator.maxPending ≤ correlator.makeRoom.pending.size ∧
      correlator.start stage event =
        { correlator.makeRoom with
          counts := { correlator.makeRoom.counts with
            overflow := correlator.makeRoom.counts.overflow + 1 } }) := by
  by_cases present : correlator.pending.contains (event.keyAt stage) = true
  · exact .inl ⟨present, if_pos present⟩
  · have roomy : correlator.start stage event =
        if correlator.makeRoom.maxPending ≤ correlator.makeRoom.pending.size then
          { correlator.makeRoom with
            counts := { correlator.makeRoom.counts with
              overflow := correlator.makeRoom.counts.overflow + 1 } }
        else
          { correlator.makeRoom with
            pending := correlator.makeRoom.pending.insert (event.keyAt stage) (.ofEvent event) } :=
      if_neg present
    rw [makeRoom_maxPending] at roomy
    rw [Bool.not_eq_true] at present
    by_cases full : correlator.maxPending ≤ correlator.makeRoom.pending.size
    · exact .inr (.inr ⟨present, full, by rw [roomy, if_pos full]⟩)
    · exact .inr (.inl ⟨present, by omega, by rw [roomy, if_neg full]⟩)

@[simp] theorem start_watermark (stage : Stage) (event : Event) :
    (correlator.start stage event).watermark = correlator.watermark := by
  rcases correlator.start_cases stage event with ⟨_, same⟩ | ⟨_, _, same⟩ | ⟨_, _, same⟩ <;> simp [same]

@[simp] theorem start_horizon (stage : Stage) (event : Event) :
    (correlator.start stage event).horizon = correlator.horizon := by
  rcases correlator.start_cases stage event with ⟨_, same⟩ | ⟨_, _, same⟩ | ⟨_, _, same⟩ <;> simp [same]

@[simp] theorem start_maxPending (stage : Stage) (event : Event) :
    (correlator.start stage event).maxPending = correlator.maxPending := by
  rcases correlator.start_cases stage event with ⟨_, same⟩ | ⟨_, _, same⟩ | ⟨_, _, same⟩ <;>
    simp [same]

/-- Under the key of a start waits that start, unless it was refused and counted. -/
theorem find?_start_self (stage : Stage) (event : Event) :
    (correlator.start stage event).pending.find? (event.keyAt stage) =
        some (PendingStart.ofEvent event) ∨
      ((correlator.start stage event).pending.find? (event.keyAt stage) = none ∧
        (correlator.start stage event).counts.overflow ≠ correlator.counts.overflow) := by
  rcases correlator.start_cases stage event with ⟨_, replaced⟩ | ⟨_, _, admitted⟩ | ⟨absent, _, refused⟩
  · rw [replaced]
    exact .inl (by simp [Table.find?_insert])
  · rw [admitted]
    exact .inl (by simp [Table.find?_insert])
  · right
    rw [refused]
    have still := correlator.contains_makeRoom absent
    rw [Table.contains, Option.isSome_eq_false_iff, Option.isNone_iff_eq_none] at still
    refine ⟨still, ?_⟩
    have same : correlator.makeRoom.counts.overflow = correlator.counts.overflow := by
      unfold makeRoom; split <;> rfl
    simp only [same]
    exact succ_ne_self _

/-- A start adds nothing under other keys. -/
theorem find?_of_start {stage : Stage} {event : Event} {key : StageKey} {start : PendingStart}
    (other : key ≠ event.keyAt stage)
    (found : (correlator.start stage event).pending.find? key = some start) :
    correlator.pending.find? key = some start := by
  rcases correlator.start_cases stage event with ⟨_, same⟩ | ⟨_, _, same⟩ | ⟨_, _, same⟩ <;>
    rw [same] at found
  · rwa [Table.find?_insert, if_neg other] at found
  · rw [Table.find?_insert, if_neg other] at found
    exact correlator.find?_of_makeRoom found
  · exact correlator.find?_of_makeRoom found

/-- A start takes no live start away under other keys. -/
theorem find?_start_of_live {stage : Stage} {event : Event} {key : StageKey} {start : PendingStart}
    (other : key ≠ event.keyAt stage) (waiting : correlator.pending.find? key = some start)
    (live : correlator.Live start) :
    (correlator.start stage event).pending.find? key = some start := by
  have roomy := correlator.find?_makeRoom_of_live waiting live
  rcases correlator.start_cases stage event with ⟨_, same⟩ | ⟨_, _, same⟩ | ⟨_, _, same⟩ <;> rw [same]
  · rwa [Table.find?_insert, if_neg other]
  · rwa [Table.find?_insert, if_neg other]
  · exact roomy

/-! ## Finishes -/

/-- The operation between a start and its finish, charged to an entity. -/
def operationOf (stage : Stage) (start : PendingStart) (finish : Event) (entity : String) :
    Operation :=
  { entity
    direction := start.direction
    stage
    duration := finish.timestamp - start.timestamp
    bytes := if finish.bytes ≠ 0 then finish.bytes else start.bytes
    completedAt := finish.timestamp }

/-- The operation that a waiting start makes with a finish: none if the finish precedes the start or
neither of them names an entity. -/
def pairUp (stage : Stage) (finish : Event) (start : PendingStart) : Option Operation :=
  if finish.timestamp < start.timestamp then none
  else (start.entity.or finish.entity).map (operationOf stage start finish)

theorem pairUp_eq_some_iff {stage : Stage} {finish : Event} {start : PendingStart}
    {operation : Operation} :
    pairUp stage finish start = some operation ↔
      start.timestamp ≤ finish.timestamp ∧
        ∃ entity, start.entity.or finish.entity = some entity ∧
          operationOf stage start finish entity = operation := by
  unfold pairUp
  split
  · rename_i skewed
    exact iff_of_false (by simp) fun made => UInt64.not_le.2 skewed made.1
  · rename_i ordered
    rw [Option.map_eq_some_iff]
    exact ⟨fun made => ⟨UInt64.not_lt.1 ordered, made⟩, fun made => made.2⟩

/-- A finish finds no start, precedes the start that it finds, finds no entity, or completes an
operation. It takes the start out of the table in every case but the first. -/
theorem finish_cases (stage : Stage) (event : Event) :
    (correlator.pending.find? (event.keyAt stage) = none ∧
      correlator.finish stage event =
        ({ correlator with counts := { correlator.counts with
            unmatched := correlator.counts.unmatched + 1 } }, none)) ∨
    ∃ start, correlator.pending.find? (event.keyAt stage) = some start ∧
      ((event.timestamp < start.timestamp ∧
        correlator.finish stage event =
          ({ correlator with
              pending := correlator.pending.erase (event.keyAt stage)
              counts := { correlator.counts with skewed := correlator.counts.skewed + 1 } }, none)) ∨
      (start.timestamp ≤ event.timestamp ∧ start.entity.or event.entity = none ∧
        correlator.finish stage event =
          ({ correlator with
              pending := correlator.pending.erase (event.keyAt stage)
              counts := { correlator.counts with
                unattributed := correlator.counts.unattributed + 1 } }, none)) ∨
      ∃ entity, start.timestamp ≤ event.timestamp ∧ start.entity.or event.entity = some entity ∧
        correlator.finish stage event =
          ({ correlator with
              pending := correlator.pending.erase (event.keyAt stage)
              counts := { correlator.counts with matched := correlator.counts.matched + 1 } },
            some (operationOf stage start event entity))) := by
  cases waiting : correlator.pending.find? (event.keyAt stage) with
  | none =>
    refine .inl ⟨rfl, ?_⟩
    unfold Event.keyAt at waiting
    simp only [finish, waiting]
  | some start =>
    refine .inr ⟨start, rfl, ?_⟩
    unfold Event.keyAt at waiting
    by_cases skewed : event.timestamp < start.timestamp
    · exact .inl ⟨skewed, by simp only [finish, waiting, if_pos skewed, Event.keyAt]⟩
    · have ordered : start.timestamp ≤ event.timestamp := UInt64.not_lt.1 skewed
      cases owner : start.entity.or event.entity with
      | none =>
        refine .inr (.inl ⟨ordered, rfl, ?_⟩)
        simp only [finish, waiting, if_neg skewed, owner, Event.keyAt]
      | some entity =>
        refine .inr (.inr ⟨entity, ordered, rfl, ?_⟩)
        simp only [finish, waiting, if_neg skewed, owner, Event.keyAt, operationOf]

@[simp] theorem finish_watermark (stage : Stage) (event : Event) :
    (correlator.finish stage event).1.watermark = correlator.watermark := by
  rcases correlator.finish_cases stage event with
    ⟨_, same⟩ | ⟨_, _, ⟨_, same⟩ | ⟨_, _, same⟩ | ⟨_, _, _, same⟩⟩ <;> rw [same]

@[simp] theorem finish_horizon (stage : Stage) (event : Event) :
    (correlator.finish stage event).1.horizon = correlator.horizon := by
  rcases correlator.finish_cases stage event with
    ⟨_, same⟩ | ⟨_, _, ⟨_, same⟩ | ⟨_, _, same⟩ | ⟨_, _, _, same⟩⟩ <;> rw [same]

@[simp] theorem finish_maxPending (stage : Stage) (event : Event) :
    (correlator.finish stage event).1.maxPending = correlator.maxPending := by
  rcases correlator.finish_cases stage event with
    ⟨_, same⟩ | ⟨_, _, ⟨_, same⟩ | ⟨_, _, same⟩ | ⟨_, _, _, same⟩⟩ <;> rw [same]

/-- A finish answers with the operation that it makes with the start of its key. -/
theorem finish_operation (stage : Stage) (event : Event) :
    (correlator.finish stage event).2 =
      (correlator.pending.find? (event.keyAt stage)).bind (pairUp stage event) := by
  rcases correlator.finish_cases stage event with
    ⟨absent, same⟩ |
      ⟨start, found, ⟨skewed, same⟩ | ⟨ordered, owner, same⟩ | ⟨entity, ordered, owner, same⟩⟩
  · rw [same, absent, Option.bind_none]
  · rw [same, found, Option.bind_some, pairUp, if_pos skewed]
  · rw [same, found, Option.bind_some, pairUp, if_neg (UInt64.not_lt.2 ordered), owner, Option.map_none]
  · rw [same, found, Option.bind_some, pairUp, if_neg (UInt64.not_lt.2 ordered), owner, Option.map_some]

/-- Whether or not it finds a start, a finish erases its key. -/
theorem pending_finish (stage : Stage) (event : Event) :
    (correlator.finish stage event).1.pending = correlator.pending.erase (event.keyAt stage) := by
  rcases correlator.finish_cases stage event with
    ⟨absent, same⟩ | ⟨_, _, ⟨_, same⟩ | ⟨_, _, same⟩ | ⟨_, _, _, same⟩⟩ <;> rw [same]
  exact (correlator.pending.erase_eq_self absent).symm

/-- A finish leaves its key empty and every other key as it was. -/
theorem find?_finish (stage : Stage) (event : Event) (key : StageKey) :
    (correlator.finish stage event).1.pending.find? key =
      if key = event.keyAt stage then none else correlator.pending.find? key := by
  rw [pending_finish, Table.find?_erase]

@[simp] theorem finish_overflow (stage : Stage) (event : Event) :
    (correlator.finish stage event).1.counts.overflow = correlator.counts.overflow := by
  rcases correlator.finish_cases stage event with
    ⟨_, same⟩ | ⟨_, _, ⟨_, same⟩ | ⟨_, _, same⟩ | ⟨_, _, _, same⟩⟩ <;> rw [same]

theorem size_finish_le (stage : Stage) (event : Event) :
    (correlator.finish stage event).1.pending.size ≤ correlator.pending.size := by
  rw [pending_finish]
  exact List.length_filter_le _ _

/-! ## Events -/

/-- An event starts a stage, finishes one, or finishes one and then starts another. -/
theorem observe_cases (event : Event) :
    (∃ stage, event.probe.transitions = [(stage, .start)] ∧
      correlator.observe event = ((correlator.advance event).start stage event, none)) ∨
    (∃ stage, event.probe.transitions = [(stage, .finish)] ∧
      correlator.observe event = (correlator.advance event).finish stage event) ∨
    ∃ stage next, next ≠ stage ∧ event.probe.transitions = [(stage, .finish), (next, .start)] ∧
      correlator.observe event =
        (((correlator.advance event).finish stage event).1.start next event,
          ((correlator.advance event).finish stage event).2) := by
  rcases event.probe.transitions_cases with
    ⟨stage, shape⟩ | ⟨stage, shape⟩ | ⟨stage, next, differ, shape⟩
  · refine .inl ⟨stage, shape, ?_⟩
    simp only [observe, shape, List.foldl_cons, List.foldl_nil, apply]
  · refine .inr (.inl ⟨stage, shape, ?_⟩)
    simp only [observe, shape, List.foldl_cons, List.foldl_nil, apply, Option.or_none]
  · refine .inr (.inr ⟨stage, next, differ, shape, ?_⟩)
    simp only [observe, shape, List.foldl_cons, List.foldl_nil, apply, Option.or_none]

@[simp] theorem observe_watermark (event : Event) :
    (correlator.observe event).1.watermark = max correlator.watermark event.timestamp := by
  rcases correlator.observe_cases event with ⟨_, _, same⟩ | ⟨_, _, same⟩ | ⟨_, _, _, _, same⟩ <;>
    simp [same, advance]

@[simp] theorem observe_horizon (event : Event) :
    (correlator.observe event).1.horizon = correlator.horizon := by
  rcases correlator.observe_cases event with ⟨_, _, same⟩ | ⟨_, _, same⟩ | ⟨_, _, _, _, same⟩ <;>
    simp [same, advance]

@[simp] theorem observe_maxPending (event : Event) :
    (correlator.observe event).1.maxPending = correlator.maxPending := by
  rcases correlator.observe_cases event with ⟨_, _, same⟩ | ⟨_, _, same⟩ | ⟨_, _, _, _, same⟩ <;>
    simp [same, advance]

/-- An event that starts a key leaves itself waiting under it, or is refused and counted. -/
theorem find?_observe_of_starts {event : Event} {key : StageKey} (starts : event.Starts key) :
    (correlator.observe event).1.pending.find? key = some (PendingStart.ofEvent event) ∨
      ((correlator.observe event).1.pending.find? key = none ∧
        (correlator.observe event).1.counts.overflow ≠ correlator.counts.overflow) := by
  rw [starts.key_eq]
  have present := starts.1
  rcases correlator.observe_cases event with
    ⟨stage, shape, same⟩ | ⟨stage, shape, same⟩ | ⟨stage, next, _, shape, same⟩
  · obtain rfl : key.1 = stage := by simpa [shape] using present
    rw [same]
    exact (correlator.advance event).find?_start_self key.1 event
  · simp [shape] at present
  · obtain rfl : key.1 = next := by simpa [shape] using present
    have opened := ((correlator.advance event).finish stage event).1.find?_start_self key.1 event
    rw [finish_overflow] at opened
    rw [same]
    exact opened

/-- An event that finishes a key leaves nothing waiting under it. -/
theorem find?_observe_of_finishes {event : Event} {key : StageKey} (finishes : event.Finishes key) :
    (correlator.observe event).1.pending.find? key = none := by
  rw [finishes.key_eq]
  have present := finishes.1
  rcases correlator.observe_cases event with
    ⟨stage, shape, same⟩ | ⟨stage, shape, same⟩ | ⟨stage, next, differ, shape, same⟩
  · simp [shape] at present
  · obtain rfl : key.1 = stage := by simpa [shape] using present
    rw [same, find?_finish, if_pos rfl]
  · obtain rfl : key.1 = stage := by simpa [shape] using present
    rw [same, Option.eq_none_iff_forall_ne_some]
    intro start found
    have other : event.keyAt key.1 ≠ event.keyAt next :=
      fun equal => differ (congrArg Prod.fst equal).symm
    have earlier := find?_of_start _ other found
    rw [find?_finish, if_pos rfl] at earlier
    cases earlier

/-- The operation that an event completes is made with the start waiting under the key it finishes. -/
theorem observe_operation {event : Event} {key : StageKey} (finishes : event.Finishes key) :
    (correlator.observe event).2 = (correlator.pending.find? key).bind (pairUp key.1 event) := by
  have present := finishes.1
  rcases correlator.observe_cases event with
    ⟨stage, shape, same⟩ | ⟨stage, shape, same⟩ | ⟨stage, next, _, shape, same⟩
  · simp [shape] at present
  · obtain rfl : key.1 = stage := by simpa [shape] using present
    rw [same, finish_operation, ← finishes.key_eq]
    rfl
  · obtain rfl : key.1 = stage := by simpa [shape] using present
    rw [same, finish_operation, ← finishes.key_eq]
    rfl

/-- Only the finish of a stage completes an operation, and the operation is of that stage. -/
theorem finishes_of_observe {event : Event} {operation : Operation}
    (completed : (correlator.observe event).2 = some operation) :
    event.Finishes (event.keyAt operation.stage) := by
  rcases correlator.observe_cases event with
    ⟨stage, shape, same⟩ | ⟨stage, shape, same⟩ | ⟨stage, next, _, shape, same⟩ <;>
    rw [same] at completed
  · cases completed
  · rw [finish_operation, Option.bind_eq_some_iff] at completed
    obtain ⟨start, _, made⟩ := completed
    obtain ⟨_, entity, _, rfl⟩ := pairUp_eq_some_iff.1 made
    exact ⟨by simp [shape, Event.keyAt, operationOf], rfl⟩
  · rw [finish_operation, Option.bind_eq_some_iff] at completed
    obtain ⟨start, _, made⟩ := completed
    obtain ⟨_, entity, _, rfl⟩ := pairUp_eq_some_iff.1 made
    exact ⟨by simp [shape, Event.keyAt, operationOf], rfl⟩

/-- An event adds nothing under a key that it does not touch. -/
theorem find?_of_observe {event : Event} {key : StageKey} {start : PendingStart}
    (untouched : ¬ event.Touches key)
    (found : (correlator.observe event).1.pending.find? key = some start) :
    correlator.pending.find? key = some start := by
  rcases correlator.observe_cases event with
    ⟨stage, shape, same⟩ | ⟨stage, shape, same⟩ | ⟨stage, next, _, shape, same⟩ <;> rw [same] at found
  · have apart := Event.ne_keyAt untouched stage .start (by simp [shape])
    exact (correlator.advance event).find?_of_start apart found
  · have apart := Event.ne_keyAt untouched stage .finish (by simp [shape])
    rwa [find?_finish, if_neg apart] at found
  · have apart := Event.ne_keyAt untouched stage .finish (by simp [shape])
    have apartNext := Event.ne_keyAt untouched next .start (by simp [shape])
    have before := find?_of_start _ apartNext found
    rwa [find?_finish, if_neg apart] at before

/-- An event takes no start away under a key that it does not touch, as long as the start is live
at the watermark that the event brings. -/
theorem find?_observe_of_live {event : Event} {key : StageKey} {start : PendingStart}
    (untouched : ¬ event.Touches key) (waiting : correlator.pending.find? key = some start)
    (live : (correlator.advance event).Live start) :
    (correlator.observe event).1.pending.find? key = some start := by
  rcases correlator.observe_cases event with
    ⟨stage, shape, same⟩ | ⟨stage, shape, same⟩ | ⟨stage, next, _, shape, same⟩ <;> rw [same]
  · have apart := Event.ne_keyAt untouched stage .start (by simp [shape])
    exact find?_start_of_live _ apart waiting live
  · have apart := Event.ne_keyAt untouched stage .finish (by simp [shape])
    rwa [find?_finish, if_neg apart]
  · have apart := Event.ne_keyAt untouched stage .finish (by simp [shape])
    have apartNext := Event.ne_keyAt untouched next .start (by simp [shape])
    have kept : ((correlator.advance event).finish stage event).1.pending.find? key = some start := by
      rwa [find?_finish, if_neg apart]
    refine find?_start_of_live _ apartNext kept ?_
    rw [live_iff] at live ⊢
    rwa [finish_watermark, finish_horizon]

end Correlator

end StorageTrace
