import Mathlib.Data.List.Induction
import StorageTrace.Proofs.Window.Totals

/-! # The newest operation of a slot

A slot keeps the duration of its newest operation: the one that completed last by its own time stamp, and
of several at that time the one recorded last. The time that guards it starts at zero with every window, and
no operation completes before that.
-/

namespace StorageTrace

/-- No operation completed later, and none behind it as late. -/
def IsNewest (operations : List Operation) (operation : Operation) : Prop :=
  ∃ before after, operations = before ++ operation :: after ∧
    (∀ other ∈ before, other.completedAt ≤ operation.completedAt) ∧
    ∀ other ∈ after, other.completedAt < operation.completedAt

/-- The newest of the operations so far and of one more. -/
def newer (best? : Option Operation) (operation : Operation) : Option Operation :=
  match best? with
  | none => some operation
  | some best => some (if best.completedAt ≤ operation.completedAt then operation else best)

/-- The newest of some operations. -/
def newest? (operations : List Operation) : Option Operation := operations.foldl newer none

/-- The duration of an operation, and zero without one. -/
def latencyOf (operation? : Option Operation) : UInt64 := (operation?.map (·.duration)).getD 0

theorem newest?_concat (operations : List Operation) (operation : Operation) :
    newest? (operations ++ [operation]) = newer (newest? operations) operation := by
  rw [newest?, List.foldl_append]
  rfl

theorem newest?_eq_none_iff {operations : List Operation} : newest? operations = none ↔ operations = [] := by
  induction operations using List.reverseRecOn with
  | nil => simp [newest?]
  | append_singleton earlier operation ih =>
    rw [newest?_concat]
    cases newest? earlier <;> simp [newer]

namespace IsNewest

variable {operations : List Operation} {operation other : Operation}

theorem mem (newest : IsNewest operations operation) : operation ∈ operations := by
  obtain ⟨before, after, rfl, -⟩ := newest
  exact List.mem_append_right _ List.mem_cons_self

theorem le (newest : IsNewest operations operation) (member : other ∈ operations) :
    other.completedAt ≤ operation.completedAt := by
  obtain ⟨before, after, rfl, earlier, later⟩ := newest
  rcases List.mem_append.1 member with first | rest
  · exact earlier other first
  · rcases List.mem_cons.1 rest with rfl | last
    · exact UInt64.le_refl _
    · exact UInt64.le_of_lt (later other last)

/-- What was recorded before does not matter unless it completed later. -/
theorem append (newest : IsNewest operations operation) {earlier : List Operation}
    (none : ∀ other ∈ earlier, other.completedAt ≤ operation.completedAt) :
    IsNewest (earlier ++ operations) operation := by
  obtain ⟨before, after, rfl, first, last⟩ := newest
  refine ⟨earlier ++ before, after, (List.append_assoc ..).symm, ?_, last⟩
  intro other member
  exact (List.mem_append.1 member).elim (none other) (first other)

/-- An operation more is the newest if it is as late as the newest before it, which otherwise stays. -/
theorem concat_iff :
    IsNewest (operations ++ [other]) operation ↔
      (operation = other ∧ ∀ earlier ∈ operations, earlier.completedAt ≤ other.completedAt) ∨
        (IsNewest operations operation ∧ other.completedAt < operation.completedAt) := by
  constructor
  · rintro ⟨before, after, split, earlier, later⟩
    rcases List.eq_nil_or_concat after with rfl | ⟨between, last, rfl⟩
    · obtain ⟨rfl, same⟩ := List.append_inj' split rfl
      cases same
      exact .inl ⟨rfl, earlier⟩
    · rw [List.concat_eq_append, ← List.cons_append, ← List.append_assoc] at split
      obtain ⟨rfl, same⟩ := List.append_inj' split rfl
      cases same
      rw [List.concat_eq_append] at later
      refine .inr ⟨⟨before, between, rfl, earlier, ?_⟩, later _ (by simp)⟩
      intro member present
      exact later member (List.mem_append_left _ present)
  · rintro (⟨rfl, earlier⟩ | ⟨⟨before, after, rfl, earlier, later⟩, below⟩)
    · exact ⟨operations, [], rfl, earlier, by simp⟩
    · refine ⟨before, after ++ [other], by simp, earlier, ?_⟩
      intro member present
      rcases List.mem_append.1 present with inside | last
      · exact later member inside
      · rw [List.mem_singleton.1 last]
        exact below

end IsNewest

/-- The search finds the newest operation, whichever operations there are. -/
theorem newest?_eq_some_iff {operations : List Operation} {operation : Operation} :
    newest? operations = some operation ↔ IsNewest operations operation := by
  -- from the end, where the last operation meets the newest of all before it
  induction operations using List.reverseRecOn generalizing operation with
  | nil =>
    refine iff_of_false (by simp [newest?]) ?_
    intro newest
    exact absurd newest.mem List.not_mem_nil
  | append_singleton earlier last ih =>
    rw [newest?_concat, IsNewest.concat_iff]
    cases found : newest? earlier with
    | none =>
      obtain rfl := newest?_eq_none_iff.1 found
      constructor
      · rintro ⟨⟩
        exact .inl ⟨rfl, by simp⟩
      · rintro (⟨rfl, -⟩ | ⟨newest, -⟩)
        · rfl
        · exact absurd newest.mem List.not_mem_nil
    | some best =>
      have newest := ih.1 found
      by_cases later : best.completedAt ≤ last.completedAt
      · rw [newer, if_pos later]
        constructor
        · rintro ⟨⟩
          exact .inl ⟨rfl, fun _ member => UInt64.le_trans (newest.le member) later⟩
        · rintro (⟨rfl, -⟩ | ⟨other, below⟩)
          · rfl
          · exact absurd (UInt64.le_trans (newest.le other.mem) later) (UInt64.not_le.2 below)
      · rw [newer, if_neg later]
        constructor
        · rintro ⟨⟩
          exact .inr ⟨newest, UInt64.not_le.1 later⟩
        · rintro (⟨-, earliest⟩ | ⟨other, -⟩)
          · exact absurd (earliest best newest.mem) later
          · exact found.symm.trans (ih.2 other)

namespace SlotCounter

/-- After some operations a counter knows the duration and the time of the newest. -/
theorem newest_foldl (operations : List Operation) :
    let counter := operations.foldl recordOperation {}
    counter.totals.lastLatency = latencyOf (newest? operations) ∧
      counter.lastCompleted = ((newest? operations).map (·.completedAt)).getD 0 := by
  induction operations using List.reverseRecOn with
  | nil => exact ⟨rfl, rfl⟩
  | append_singleton earlier operation ih =>
    obtain ⟨latency, completed⟩ := ih
    rw [List.foldl_append, newest?_concat]
    dsimp only [List.foldl_cons, List.foldl_nil, recordOperation, record]
    rw [latency, completed]
    cases newest? earlier with
    | none => simp [newer, latencyOf]
    | some best =>
      by_cases later : best.completedAt ≤ operation.completedAt
      · simp [newer, latencyOf, later]
      · simp [newer, latencyOf, later]

end SlotCounter

namespace Window

/-- The counter of a slot takes in the operations charged to it, in their order. -/
theorem counter_recordAll (window : Window) (operations : List Operation) (entity : String) (slot : Slot) :
    ((window.recordAll operations).countersOf entity).get slot =
      (chargedTo entity slot operations).foldl SlotCounter.recordOperation
        ((window.countersOf entity).get slot) := by
  induction operations generalizing window with
  | nil => rfl
  | cons operation rest ih =>
    change ((((window.record operation).recordAll rest).countersOf entity)).get slot = _
    rw [ih, countersOf_record, chargedTo_cons]
    split
    · rfl
    · rfl

/-- A window keeps the duration of the newest operation charged to a slot. -/
theorem lastLatency_recordAll (opened : Duration) (operations : List Operation) (entity : String)
    (slot : Slot) :
    ((({ opened } : Window).recordAll operations).slotTotals entity slot).lastLatency =
      latencyOf (newest? (chargedTo entity slot operations)) := by
  have fresh : (({ opened } : Window).countersOf entity).get slot = {} := by
    simp [countersOf, Table.find?_empty]
  rw [slotTotals, counter_recordAll, fresh]
  exact (SlotCounter.newest_foldl _).1

/-- A window counts the operations charged to a slot. -/
theorem operations_recordAll (opened : Duration) (operations : List Operation) (entity : String)
    (slot : Slot) :
    ((({ opened } : Window).recordAll operations).slotTotals entity slot).operations =
      UInt64.ofNat (chargedTo entity slot operations).length := by
  rw [accrues_recordAll Accrues.operations, slotTotals_new, sum_ones, UInt64.zero_add]

end Window

end StorageTrace
