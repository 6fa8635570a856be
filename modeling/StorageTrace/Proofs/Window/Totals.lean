import Mathlib.Algebra.BigOperators.Group.List.Basic
import Mathlib.Data.UInt
import StorageTrace.Aggregator

/-! # The totals of a window

What aggregation reads for an entity from the totals of a window are the counters of that entity. Each
figure that an operation raises by a weight of its own therefore sums the weights of the operations
that were charged to the entity and slot, and of no others.
-/

namespace StorageTrace

/-- The operations charged to an entity and a slot. -/
def chargedTo (entity : String) (slot : Slot) (operations : List Operation) : List Operation :=
  operations.filter fun operation => entity = operation.entity ∧ slot = operation.slot

theorem chargedTo_append (entity : String) (slot : Slot) (left right : List Operation) :
    chargedTo entity slot (left ++ right) = chargedTo entity slot left ++ chargedTo entity slot right :=
  List.filter_append ..

theorem chargedTo_perm {left right : List Operation} (perm : left.Perm right) (entity : String)
    (slot : Slot) : (chargedTo entity slot left).Perm (chargedTo entity slot right) :=
  perm.filter _

theorem chargedTo_cons (entity : String) (slot : Slot) (operation : Operation) (rest : List Operation) :
    chargedTo entity slot (operation :: rest) =
      if entity = operation.entity ∧ slot = operation.slot then operation :: chargedTo entity slot rest
      else chargedTo entity slot rest := by
  simp only [chargedTo, List.filter_cons, decide_eq_true_eq]

/-- Ones sum to the number of them, as a word. -/
theorem sum_ones (operations : List Operation) :
    (operations.map fun _ => (1 : UInt64)).sum = UInt64.ofNat operations.length := by
  induction operations with
  | nil => rfl
  | cons operation rest ih =>
    rw [List.map_cons, List.sum_cons, ih, List.length_cons, UInt64.ofNat_add, UInt64.add_comm]
    rfl

/-- A figure of a slot that every operation raises by its weight. -/
structure Accrues (figure : SlotTotals → UInt64) (weight : Operation → UInt64) : Prop where
  zero : figure {} = 0
  record : ∀ (counter : SlotCounter) (operation : Operation),
    figure (counter.recordOperation operation).totals = figure counter.totals + weight operation

namespace Accrues

theorem operations : Accrues (·.operations) fun _ => 1 := ⟨rfl, fun _ _ => rfl⟩

theorem bytes : Accrues (·.bytes) (·.bytes) := ⟨rfl, fun _ _ => rfl⟩

theorem latencySum : Accrues (·.latencySum) (·.duration) := ⟨rfl, fun _ _ => rfl⟩

end Accrues

namespace Window

/-- The totals name the entities of the counters, each once. -/
theorem perm_names_totals (window : Window) :
    (window.totals.map Prod.fst).Perm window.counters.keys := by
  rw [totals, List.map_map]
  exact (List.mergeSort_perm _ _).map Prod.fst

/-- The sums of one slot of one entity. -/
def slotTotals (window : Window) (entity : String) (slot : Slot) : SlotTotals :=
  ((window.countersOf entity).get slot).totals

/-- Aggregation reads the counters of an entity from the totals, wherever these stand in the list. -/
theorem totalsOf_totals (window : Window) (entity : String) (slot : Slot) :
    (Aggregator.totalsOf window.totals entity).get slot = window.slotTotals entity slot := by
  have searched := window.counters.find?_of_mem_iff window.counters.sorted.reverse
    (fun entry => by rw [List.mem_reverse, Table.sorted, List.mem_mergeSort]) entity
  have read : (window.totals.reverse.find? fun entry => entry.1 = entity) =
      (window.counters.find? entity).map fun counters => (entity, counters.map SlotCounter.totals) := by
    rw [totals, ← List.map_reverse, List.find?_map]
    change (window.counters.sorted.reverse.find? fun entry => entry.1 = entity).map _ = _
    rw [searched, Option.map_map]
    rfl
  unfold Aggregator.totalsOf slotTotals countersOf
  rw [read]
  cases window.counters.find? entity with
  | none => simp
  | some counters => simp

theorem slotTotals_record (window : Window) (operation : Operation) (entity : String) (slot : Slot) :
    (window.record operation).slotTotals entity slot =
      if entity = operation.entity ∧ slot = operation.slot then
        (((window.countersOf entity).get slot).recordOperation operation).totals
      else window.slotTotals entity slot := by
  unfold slotTotals
  rw [countersOf_record]
  split <;> rfl

theorem slotTotals_new (opened : Duration) (entity : String) (slot : Slot) :
    ({ opened } : Window).slotTotals entity slot = {} := by
  simp [slotTotals, countersOf, Table.find?_empty]

/-- A window accrues the weights of the operations charged to an entity and slot, and no others. -/
theorem accrues_recordAll {figure : SlotTotals → UInt64} {weight : Operation → UInt64}
    (accrues : Accrues figure weight) (window : Window) (operations : List Operation)
    (entity : String) (slot : Slot) :
    figure ((window.recordAll operations).slotTotals entity slot) =
      figure (window.slotTotals entity slot) +
        ((chargedTo entity slot operations).map weight).sum := by
  induction operations generalizing window with
  | nil => exact (UInt64.add_zero _).symm
  | cons operation rest ih =>
    change figure (((window.record operation).recordAll rest).slotTotals entity slot) = _
    rw [ih, slotTotals_record, chargedTo_cons]
    by_cases charged : entity = operation.entity ∧ slot = operation.slot
    · rw [if_pos charged, if_pos charged, accrues.record, List.map_cons, List.sum_cons,
        UInt64.add_assoc]
      rfl
    · rw [if_neg charged, if_neg charged]

end Window

end StorageTrace
