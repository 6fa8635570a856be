import StorageTrace.Proofs.Collection.Run
import StorageTrace.Proofs.Correlation.Room

/-! # Whose operation it is

An operation belongs to whoever owned the cgroup of its start when the start was handled. The start keeps
that owner while it waits, so no refresh of the index in between makes a difference. Only if the start had
no owner does the finish decide, by the index that it meets. A pair without an owner is taken out of the
table, counted and not recorded; cgroup zero never has an owner, whatever the index says of it.
-/

namespace StorageTrace

namespace OwnerIndex

/-- The index charges an event to an entity: the cgroup of the event is not zero and the entity owns it. -/
def Charges (index : OwnerIndex) (event : Event) (entity : String) : Prop :=
  event.cgroup ≠ 0 ∧ index.resolve event.cgroup = some entity

/-- An event that names no entity is assigned to the one it is charged to. -/
theorem entity_assign_eq_some_iff {index : OwnerIndex} {event : Event} (unnamed : event.entity = none)
    {entity : String} : (index.assign event).entity = some entity ↔ index.Charges event entity := by
  unfold assign Charges
  by_cases root : event.cgroup = 0
  · simp [unnamed, root]
  · simp [unnamed, root]

end OwnerIndex

/-- Whose operation the pair of a start and a finish is. -/
inductive Attributed (first last : Handling) (entity : String) : Prop where
  /-- The owner when the start was handled. -/
  | start (charged : first.before.index.Charges first.event entity)
  /-- Failing that, the owner when the finish is handled. -/
  | finish (uncharged : ∀ other, ¬ first.before.index.Charges first.event other)
      (charged : last.before.index.Charges last.event entity)

theorem attributed_iff {first last : Handling} (unnamed : first.event.entity = none)
    (unnamed' : last.event.entity = none) {entity : String} :
    Attributed first last entity ↔
      first.assigned.entity.or last.assigned.entity = some entity := by
  have charged {owner : String} : first.assigned.entity = some owner ↔
      first.before.index.Charges first.event owner := OwnerIndex.entity_assign_eq_some_iff unnamed
  have charged' {owner : String} : last.assigned.entity = some owner ↔
      last.before.index.Charges last.event owner := OwnerIndex.entity_assign_eq_some_iff unnamed'
  cases owned : first.assigned.entity with
  | some owner =>
    rw [Option.some_or]
    constructor
    · rintro (same | ⟨uncharged, -⟩)
      · exact owned.symm.trans (charged.2 same)
      · exact absurd (charged.1 owned) (uncharged owner)
    · rintro ⟨rfl⟩
      exact .start (charged.1 owned)
  | none =>
    have uncharged : ∀ other, ¬ first.before.index.Charges first.event other := by
      intro other same
      rw [charged.2 same] at owned
      cases owned
    rw [Option.none_or]
    constructor
    · rintro (same | ⟨-, same⟩)
      · exact absurd same (uncharged entity)
      · exact charged'.2 same
    · exact fun same => .finish uncharged (charged'.1 same)

/-- Cgroup zero makes nobody an owner. -/
theorem Attributed.not_of_zero {first last : Handling} (zero : first.event.cgroup = 0)
    (zero' : last.event.cgroup = 0) (entity : String) : ¬ Attributed first last entity := by
  rintro (⟨nonzero, _⟩ | ⟨_, nonzero, _⟩)
  · exact nonzero zero
  · exact nonzero zero'

namespace Correlator

variable (correlator : Correlator)

@[simp] theorem start_unattributed (stage : Stage) (event : Event) :
    (correlator.start stage event).counts.unattributed = correlator.counts.unattributed := by
  have roomy : correlator.makeRoom.counts.unattributed = correlator.counts.unattributed := by
    unfold makeRoom
    split
    · rfl
    · rfl
  rcases correlator.start_cases stage event with ⟨_, same⟩ | ⟨_, _, same⟩ | ⟨_, _, same⟩ <;>
    simp [same, roomy]

/-- Of the transitions of an event, only its finish can be counted as unattributed. -/
theorem observe_unattributed {event : Event} {key : StageKey} (finishes : event.Finishes key) :
    (correlator.observe event).1.counts.unattributed =
      (correlator.counts.note
        (event.fate (correlator.pending.find? key) .finish)).unattributed := by
  rw [finishes.key_eq]
  have present := finishes.1
  rcases correlator.observe_cases event with
    ⟨stage, shape, same⟩ | ⟨stage, shape, same⟩ | ⟨stage, next, _, shape, same⟩
  · simp [shape] at present
  · obtain rfl : key.1 = stage := by simpa [shape] using present
    rw [same, counts_finish]
    rfl
  · obtain rfl : key.1 = stage := by simpa [shape] using present
    rw [same, start_unattributed, counts_finish]
    rfl

end Correlator

namespace CollectorRun

namespace Pairs

variable {horizon : Duration} {maxPending : Nat} {index : OwnerIndex} {calls : List Collector.Call}
variable {stage : Stage} {i j : Nat} {first last : Handling}
variable (pair : (of horizon maxPending index calls).Pairs stage i j first last)
  (waits : last.before.correlator.pending.contains (last.event.keyAt stage) = true)

include pair waits

theorem waiting_eq :
    last.before.correlator.pending.find? (last.event.keyAt stage) = some (.ofEvent first.assigned) := by
  obtain ⟨start, waiting⟩ := (Table.contains_iff _ _).1 waits
  rw [waiting, pair.start_eq waiting]

/-- A pair whose start still waits completes what its two events make. -/
theorem operation_eq :
    last.operation = Correlator.pairUp stage last.assigned (.ofEvent first.assigned) := by
  rw [Handling.operation_of_finishes pair.finishes, pair.waiting_eq waits, Option.bind_some]

theorem unattributed_after (ordered : first.assigned.timestamp ≤ last.assigned.timestamp)
    (nobody : first.assigned.entity.or last.assigned.entity = none) :
    last.after.correlator.counts.unattributed = last.before.correlator.counts.unattributed + 1 := by
  have fate : last.assigned.fate (some (.ofEvent first.assigned)) .finish = .unattributed := by
    have ownerless : (PendingStart.ofEvent first.assigned).entity.or last.assigned.entity = none := nobody
    have kept : ¬ last.assigned.timestamp < (PendingStart.ofEvent first.assigned).timestamp :=
      UInt64.not_lt.2 ordered
    simp only [Event.fate, if_neg kept, ownerless, Option.isSome_none, Bool.false_eq_true, if_false]
  have counted : last.after.correlator.counts.unattributed =
      (last.before.correlator.counts.note (last.assigned.fate _ .finish)).unattributed :=
    last.before.correlator.observe_unattributed ((OwnerIndex.finishes_assign ..).2 pair.finishes)
  rwa [pair.waiting_eq waits, fate] at counted

end Pairs

/-- What is recorded from a pair of events is charged to the owner of the start's cgroup when the start
was handled, whatever the index has become since, and only if it had none to the owner of the finish's
cgroup when the finish is: the counters of that entity take the operation in, and no others change. A pair
with an owner is recorded if its start still waits and does not come after its finish. A pair without one
records nothing, loses its start and, unless its finish precedes the start, counts as unattributed. A start
that was not refused waits for at least the horizon. -/
theorem charged_to_owner_at_start (horizon : Duration) (maxPending : Nat) (index : OwnerIndex)
    (calls : List Collector.Call)
    (unnamed : ∀ window event, Collector.Call.process window event ∈ calls → event.entity = none) :
    let run := of horizon maxPending index calls
    (∀ j last operation, run.handled[j]? = some last → last.operation = some operation →
      ∃ i first, run.Pairs operation.stage i j first last ∧
        Attributed first last operation.entity ∧
        operation.Spans operation.stage first.assigned last.assigned ∧ last.Records operation) ∧
    ∀ stage i j first last, run.Pairs stage i j first last →
      (last.before.correlator.pending.contains (last.event.keyAt stage) = true →
        (∀ entity, Attributed first last entity → first.event.timestamp ≤ last.event.timestamp →
          ∃ operation, operation.entity = entity ∧
            operation.Spans stage first.assigned last.assigned ∧ last.Records operation) ∧
        ((∀ entity, ¬ Attributed first last entity) →
          last.RecordsNothing ∧
          last.after.correlator.pending.find? (last.event.keyAt stage) = none ∧
          (first.event.timestamp ≤ last.event.timestamp →
            last.after.correlator.counts.unattributed =
              last.before.correlator.counts.unattributed + 1))) ∧
      (¬ first.observation.Overflows →
        last.before.correlator.watermark.toNat - first.event.timestamp.toNat ≤ horizon.nanos →
        last.before.correlator.pending.contains (last.event.keyAt stage) = true) := by
  intro run
  have nameless {j : Nat} {handling : Handling} (present : run.handled[j]? = some handling) :
      handling.event.entity = none :=
    event_of_calls unnamed (List.mem_of_getElem? present)
  refine ⟨?_, ?_⟩
  · intro j last operation last_at completed
    obtain ⟨i, first, pair, spans⟩ := pair_of_operation last_at completed
    exact ⟨i, first, pair, (attributed_iff (nameless pair.first_at) (nameless last_at)).2 spans.entity,
      spans, Handling.records_iff.2 completed⟩
  · intro stage i j first last pair
    have attributed {entity : String} : Attributed first last entity ↔
        first.assigned.entity.or last.assigned.entity = some entity :=
      attributed_iff (nameless pair.first_at) (nameless pair.last_at)
    have times : first.assigned.timestamp ≤ last.assigned.timestamp ↔
        first.event.timestamp ≤ last.event.timestamp := by
      rw [Handling.assigned, Handling.assigned, OwnerIndex.timestamp_assign, OwnerIndex.timestamp_assign]
    refine ⟨fun waits => ⟨?_, ?_⟩, fun accepted within => ?_⟩
    · intro entity owned ordered
      have made : Correlator.pairUp stage last.assigned (.ofEvent first.assigned) =
          some (Correlator.operationOf stage (.ofEvent first.assigned) last.assigned entity) :=
        Correlator.pairUp_eq_some_iff.2 ⟨times.2 ordered, entity, attributed.1 owned, rfl⟩
      exact ⟨_, rfl, Correlator.pairUp_ofEvent_iff.1 made,
        Handling.records_iff.2 ((pair.operation_eq waits).trans made)⟩
    · intro ownerless
      have nobody : first.assigned.entity.or last.assigned.entity = none :=
        Option.eq_none_iff_forall_ne_some.2 fun entity owned => ownerless entity (attributed.2 owned)
      have nothing : Correlator.pairUp stage last.assigned (.ofEvent first.assigned) = none :=
        Option.eq_none_iff_forall_ne_some.2 fun operation made =>
          ownerless _ (attributed.2 (Correlator.pairUp_ofEvent_iff.1 made).entity)
      have closes := (OwnerIndex.finishes_assign last.before.index ..).2 pair.finishes
      exact ⟨Handling.recordsNothing_iff.2 ((pair.operation_eq waits).trans nothing),
        last.before.correlator.find?_observe_of_finishes closes,
        fun ordered => pair.unattributed_after waits (times.2 ordered) nobody⟩
    · rw [Table.contains_iff]
      exact ⟨_, pair.waits accepted within⟩

/-- Three reads whose cgroup changes hands before they return. The index lists cgroup zero all along. -/
def relocated : List Collector.Call :=
  [.refresh [{ name := "a", cgroups := [7, 0] }],
    .process {} { probe := .readEntry, timestamp := 100, tid := 1, cgroup := 7 },
    .process {} { probe := .readEntry, timestamp := 110, tid := 2 },
    .process {} { probe := .readEntry, timestamp := 120, tid := 3 },
    .refresh [{ name := "b", cgroups := [7, 0] }],
    .sweep,
    .process {} { probe := .readExit, timestamp := 160, tid := 1, cgroup := 7, bytes := 512 },
    .process {} { probe := .readExit, timestamp := 170, tid := 2, cgroup := 7, bytes := 64 },
    .process {} { probe := .readExit, timestamp := 180, tid := 3, bytes := 8 }]

theorem charged_to_owner_at_start_relocated :
    let run := of ⟨1000⟩ 16 {} relocated
    (∃ i first last, run.Pairs .syscall i 3 first last ∧ last.before.index.resolve 7 = some "b" ∧
      Attributed first last "a" ∧ last.Records ⟨"a", .read, .syscall, 60, 512, 160⟩) ∧
    (∃ i first last, run.Pairs .syscall i 4 first last ∧
      Attributed first last "b" ∧ last.Records ⟨"b", .read, .syscall, 60, 64, 170⟩) ∧
    ∃ first last, run.Pairs .syscall 2 5 first last ∧ last.before.index.resolve 0 = some "b" ∧
      last.RecordsNothing ∧ last.after.correlator.counts.unattributed = 1 := by
  intro run
  have unnamed : ∀ window event, Collector.Call.process window event ∈ relocated →
      event.entity = none := by
    simp +contextual [relocated, or_imp]
  obtain ⟨emitted, settled⟩ := charged_to_owner_at_start ⟨1000⟩ 16 {} relocated unnamed
  have quiet : ∀ (m : Nat) (between : Handling), 2 < m → m < 5 → run.handled[m]? = some between →
      ¬ between.event.Touches (.syscall, .task 3 .read) := by
    intro m between above below present
    obtain rfl | rfl : m = 3 ∨ m = 4 := by omega
    · cases present
      decide
    · cases present
      decide
  refine ⟨?_, ?_, ?_⟩
  · obtain ⟨i, first, pair, attributed, _, records⟩ :=
      emitted 3 _ ⟨"a", .read, .syscall, 60, 512, 160⟩ rfl rfl
    exact ⟨i, first, _, pair, rfl, attributed, records⟩
  · obtain ⟨i, first, pair, attributed, _, records⟩ :=
      emitted 4 _ ⟨"b", .read, .syscall, 60, 64, 170⟩ rfl rfl
    exact ⟨i, first, _, pair, attributed, records⟩
  · have pair : run.Pairs .syscall 2 5 _ _ := ⟨by decide, rfl, rfl, by decide, by decide, quiet⟩
    obtain ⟨nothing, _, counted⟩ :=
      ((settled .syscall 2 5 _ _ pair).1 (by decide)).2 (Attributed.not_of_zero rfl rfl)
    exact ⟨_, _, pair, rfl, nothing, counted (by decide)⟩

end CollectorRun

end StorageTrace
