import StorageTrace.Proofs.Names.FirstAppearance
import StorageTrace.Proofs.Window.Newest

/-! # A window groups its operations

The totals of a window are made from the operations group by group, one group for each entity and slot: their
number, the sums of their sizes and durations, and the duration of the newest. Only the last of these looks at
the order in which the operations were recorded, and then only among those that completed at the same time.
-/

namespace StorageTrace

attribute [ext] SlotTotals

/-- The figures of a slot are those of some operations: their number and the sums over them, as far as words
go, and the duration of the newest of them, which is zero if there are none. -/
structure SlotTotals.Sums (totals : SlotTotals) (operations : List Operation) : Prop where
  count : totals.operations.toNat = operations.length % 2 ^ 64
  bytes : totals.bytes.toNat = (operations.map (·.bytes.toNat)).sum % 2 ^ 64
  latencySum : totals.latencySum.toNat = (operations.map (·.duration.toNat)).sum % 2 ^ 64
  lastLatency : (operations = [] ∧ totals.lastLatency = 0) ∨
    ∃ newest, IsNewest operations newest ∧ totals.lastLatency = newest.duration

/-- Words sum to the sum of their values, as far as words go. -/
theorem toNat_sum (words : List UInt64) : words.sum.toNat = (words.map (·.toNat)).sum % 2 ^ 64 := by
  induction words with
  | nil => rfl
  | cons word rest ih =>
    rw [List.sum_cons, UInt64.toNat_add, ih, List.map_cons, List.sum_cons, Nat.add_mod_mod]

theorem mem_chargedTo {entity : String} {slot : Slot} {operations : List Operation} {operation : Operation} :
    operation ∈ chargedTo entity slot operations ↔
      operation ∈ operations ∧ entity = operation.entity ∧ slot = operation.slot := by
  rw [chargedTo, List.mem_filter, decide_eq_true_eq]

/-- Operations that complete in the same slot of an entity at the same time take equally long. -/
def TiesAgree (operations : List Operation) : Prop :=
  ∀ first ∈ operations, ∀ second ∈ operations, first.entity = second.entity → first.slot = second.slot →
    first.completedAt = second.completedAt → first.duration = second.duration

/-- Where those that complete at the same time take equally long, their order does not matter. -/
theorem latencyOf_newest?_perm {left right : List Operation} (perm : left.Perm right)
    (ties : ∀ first ∈ left, ∀ second ∈ left, first.completedAt = second.completedAt →
      first.duration = second.duration) :
    latencyOf (newest? left) = latencyOf (newest? right) := by
  cases found : newest? left with
  | none =>
    obtain rfl := newest?_eq_none_iff.1 found
    rw [← perm.nil_eq]
    rfl
  | some first =>
    have latest := newest?_eq_some_iff.1 found
    cases other : newest? right with
    | none =>
      obtain rfl := newest?_eq_none_iff.1 other
      rw [perm.eq_nil] at latest
      exact absurd latest.mem List.not_mem_nil
    | some second =>
      have latest' := newest?_eq_some_iff.1 other
      have member := perm.mem_iff.2 latest'.mem
      have same : first.completedAt = second.completedAt :=
        UInt64.le_antisymm (latest'.le (perm.mem_iff.1 latest.mem)) (latest.le member)
      exact ties first latest.mem second member same

namespace Window

variable (opened : Duration)

/-- The totals have the entities of the counters in the order of their names, each with its sums. -/
theorem totals_eq (window : Window) :
    window.totals = (Names.ascending window.counters.keys).map fun entity =>
      (entity, PerSlot.ofFn (window.slotTotals entity)) := by
  rw [totals, ← Table.names_sorted, List.map_map]
  refine List.map_congr_left fun entry member => ?_
  rw [Table.sorted, List.mem_mergeSort] at member
  have stored := (window.counters.find?_eq_some_iff entry.1 entry.2).2 member
  have sums : entry.2.map SlotCounter.totals = PerSlot.ofFn (window.slotTotals entry.1) := by
    rw [PerSlot.map]
    congr 1
    funext slot
    rw [slotTotals, countersOf, stored, Option.getD_some]
  rw [Function.comp_apply, sums]

/-- A window has counters for the entities of the operations recorded in it. -/
theorem mem_keys_recordAll (window : Window) (operations : List Operation) (entity : String) :
    entity ∈ (window.recordAll operations).counters.keys ↔
      entity ∈ window.counters.keys ∨ ∃ operation ∈ operations, operation.entity = entity := by
  induction operations generalizing window with
  | nil => simp [recordAll]
  | cons operation rest ih =>
    have first : entity ∈ (window.record operation).counters.keys ↔
        entity ∈ window.counters.keys ∨ operation.entity = entity := by
      rw [Table.mem_keys_iff, Table.mem_keys_iff, record, Table.find?_insert]
      by_cases own : entity = operation.entity
      · simp [own]
      · simp [own, Ne.symm own]
    change entity ∈ ((window.record operation).recordAll rest).counters.keys ↔ _
    rw [ih, first, or_assoc, List.exists_mem_cons_iff]

/-- The figures of a slot are those of the operations charged to it. -/
theorem sums_recordAll (operations : List Operation) (entity : String) (slot : Slot) :
    ((({ opened } : Window).recordAll operations).slotTotals entity slot).Sums
      (chargedTo entity slot operations) where
  count := by
    rw [operations_recordAll, UInt64.toNat_ofNat']
  bytes := by
    rw [accrues_recordAll Accrues.bytes, slotTotals_new, UInt64.zero_add, toNat_sum, List.map_map]
    rfl
  latencySum := by
    rw [accrues_recordAll Accrues.latencySum, slotTotals_new, UInt64.zero_add, toNat_sum, List.map_map]
    rfl
  lastLatency := by
    rw [lastLatency_recordAll]
    cases found : newest? (chargedTo entity slot operations) with
    | none => exact .inl ⟨newest?_eq_none_iff.1 found, rfl⟩
    | some newest => exact .inr ⟨newest, newest?_eq_some_iff.1 found, rfl⟩

/-- The figures of a slot do not depend on the order of the operations unless ties disagree. -/
theorem slotTotals_perm {left right : List Operation} (perm : left.Perm right) (ties : TiesAgree left)
    (entity : String) (slot : Slot) :
    (({ opened } : Window).recordAll left).slotTotals entity slot =
      (({ opened } : Window).recordAll right).slotTotals entity slot := by
  have charged := chargedTo_perm perm entity slot
  have accrues {figure : SlotTotals → UInt64} {weight : Operation → UInt64} (accrues : Accrues figure weight) :
      figure ((({ opened } : Window).recordAll left).slotTotals entity slot) =
        figure ((({ opened } : Window).recordAll right).slotTotals entity slot) := by
    rw [accrues_recordAll accrues, accrues_recordAll accrues, (charged.map weight).sum_eq]
  refine SlotTotals.ext (accrues .operations) (accrues .bytes) (accrues .latencySum) ?_
  rw [lastLatency_recordAll, lastLatency_recordAll]
  refine latencyOf_newest?_perm charged ?_
  intro first inFirst second inSecond same
  obtain ⟨among, rfl, rfl⟩ := mem_chargedTo.1 inFirst
  obtain ⟨among', entity, slot⟩ := mem_chargedTo.1 inSecond
  exact ties first among second among' entity slot same

/-- The totals of a new window that has recorded some operations have one entry for each entity that occurs,
and in each slot the figures of the operations of that entity and slot. Where operations of an entity and slot
that complete at the same time take equally long, the totals are the same in whatever order the operations are
recorded. -/
theorem totals_group_operations (operations : List Operation) :
    let window := ({ opened } : Window).recordAll operations
    (window.totals.map Prod.fst).Nodup ∧
    window.totals.length = window.entityCount ∧
    (∀ entity, entity ∈ window.totals.map Prod.fst ↔ ∃ operation ∈ operations, operation.entity = entity) ∧
    (∀ entry ∈ window.totals, ∀ slot, (entry.2.get slot).Sums (chargedTo entry.1 slot operations)) ∧
    ∀ others, operations.Perm others → TiesAgree operations →
      (({ opened } : Window).recordAll others).totals = window.totals := by
  intro window
  have occurs (entity : String) : entity ∈ window.counters.keys ↔
      ∃ operation ∈ operations, operation.entity = entity := by
    rw [mem_keys_recordAll]
    exact or_iff_right List.not_mem_nil
  have names := window.perm_names_totals
  refine ⟨names.nodup_iff.2 window.counters.distinct, ?_, ?_, ?_, ?_⟩
  · rw [← List.length_map Prod.fst, names.length_eq, Table.keys, List.length_map]
    rfl
  · intro entity
    rw [names.mem_iff, occurs]
  · rw [totals_eq]
    intro entry member slot
    obtain ⟨entity, -, rfl⟩ := List.mem_map.1 member
    rw [PerSlot.get_ofFn]
    exact sums_recordAll opened operations entity slot
  · intro others perm ties
    have entities : Names.ascending (({ opened } : Window).recordAll others).counters.keys =
        Names.ascending window.counters.keys := by
      refine Names.ascending_congr fun entity => ?_
      rw [occurs, mem_keys_recordAll]
      simp only [perm.mem_iff]
      exact or_iff_right List.not_mem_nil
    rw [totals_eq, totals_eq, entities]
    refine List.map_congr_left fun entity _ => ?_
    rw [funext (slotTotals_perm opened perm ties entity)]

/-- A slot with an operation that comes late and two that complete at the same time, and another entity. -/
theorem totals_group_operations_shuffled :
    let early : Operation :=
      { entity := "web", direction := .read, stage := .remote, duration := 100, bytes := 8, completedAt := 100 }
    let late : Operation := { early with duration := 500, completedAt := 200 }
    let other : Operation :=
      { entity := "db", direction := .write, stage := .syscall, duration := 7, completedAt := 200 }
    let window := ({} : Window).recordAll [late, other, early, late]
    (window.totals.map Prod.fst).Nodup ∧ window.totals.length = 2 ∧ "db" ∈ window.totals.map Prod.fst ∧
      (∀ entry ∈ window.totals, entry.1 = "web" →
        (entry.2.get .network).operations.toNat = 3 ∧ (entry.2.get .network).bytes.toNat = 24) ∧
      (({} : Window).recordAll [early, late, late, other]).totals = window.totals := by
  intro early late other window
  obtain ⟨distinct, size, occurs, sums, order⟩ := totals_group_operations ⟨0⟩ [late, other, early, late]
  refine ⟨distinct, size.trans (by decide), (occurs "db").2 ⟨other, by decide, rfl⟩, ?_, ?_⟩
  · intro entry member web
    have figures := sums entry member .network
    rw [web] at figures
    exact ⟨figures.count, figures.bytes⟩
  · exact order _ (by decide) (by unfold TiesAgree; decide)

end Window

end StorageTrace
