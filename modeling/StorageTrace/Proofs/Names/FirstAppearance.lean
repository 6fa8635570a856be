import Mathlib.Data.List.Induction
import Mathlib.Data.List.Nodup
import StorageTrace.Names
import StorageTrace.Table

/-! # First appearances

What a list has left when each item counts at its first appearance alone, and what a search and an ascending
order make of it.
-/

namespace StorageTrace

section FirstAppearances

variable {α : Type} [BEq α] [LawfulBEq α]

theorem eraseDups_concat (items : List α) (item : α) :
    (items ++ [item]).eraseDups =
      if item ∈ items then items.eraseDups else items.eraseDups ++ [item] := by
  rw [List.eraseDups_append, List.removeAll]
  by_cases held : item ∈ items <;> simp [held, List.eraseDups_cons]

theorem eraseDups_filter (keep : α → Bool) (items : List α) :
    (items.filter keep).eraseDups = items.eraseDups.filter keep := by
  induction items using List.reverseRecOn with
  | nil => rfl
  | append_singleton items item ih =>
    rw [List.filter_append, eraseDups_concat]
    cases kept : keep item with
    | true =>
      rw [List.filter_singleton, kept, cond_true, eraseDups_concat, ih]
      simp only [List.mem_filter, kept, and_true]
      split
      · rfl
      · rw [List.filter_append, List.filter_singleton, kept, cond_true]
    | false =>
      rw [List.filter_singleton, kept, cond_false, List.append_nil, ih]
      split
      · rfl
      · rw [List.filter_append, List.filter_singleton, kept, cond_false, List.append_nil]

theorem eraseDups_of_nodup {items : List α} (distinct : items.Nodup) : items.eraseDups = items := by
  induction items using List.reverseRecOn with
  | nil => rfl
  | append_singleton items item ih =>
    obtain ⟨before, _, apart⟩ := List.nodup_append.1 distinct
    have unheld : item ∉ items := fun member =>
      apart item member item (List.mem_singleton_self item) rfl
    rw [eraseDups_concat, if_neg unheld, ih before]

/-- Only the first appearances in a part of a list count for those in the list. -/
theorem eraseDups_append_congr {part other : List α} (same : part.eraseDups = other.eraseDups)
    (before after : List α) :
    (before ++ part ++ after).eraseDups = (before ++ other ++ after).eraseDups := by
  have holds (item : α) : item ∈ part ↔ item ∈ other := by
    rw [← List.mem_eraseDups, same, List.mem_eraseDups]
  have first : (before ++ part).eraseDups = (before ++ other).eraseDups := by
    rw [List.eraseDups_append, List.eraseDups_append, List.removeAll, List.removeAll,
      eraseDups_filter, eraseDups_filter, same]
  have rest : after.removeAll (before ++ part) = after.removeAll (before ++ other) := by
    refine List.filter_congr fun item _ => ?_
    simp [holds]
  have split (left right : List α) :
      (left ++ right).eraseDups = left.eraseDups ++ (right.removeAll left).eraseDups :=
    List.eraseDups_append
  rw [split (before ++ part), split (before ++ other), first, rest]

/-- A search does not come to later appearances. -/
theorem find?_eraseDups (test : α → Bool) (items : List α) :
    items.eraseDups.find? test = items.find? test := by
  induction items using List.reverseRecOn with
  | nil => rfl
  | append_singleton items item ih =>
    rw [eraseDups_concat, List.find?_append]
    by_cases held : item ∈ items
    · rw [if_pos held, ih]
      by_cases passed : test item = true
      · have found := List.find?_isSome.2 ⟨item, held, passed⟩
        rw [Option.or_of_isSome found]
      · simp [passed]
    · rw [if_neg held, List.find?_append, ih]

end FirstAppearances

/-- A table in the order of its names has them in ascending order. -/
theorem Table.names_sorted {α : Type} (table : Table String α) :
    table.sorted.map Prod.fst = Names.ascending table.keys := by
  have distinct : table.keys.Nodup := table.distinct
  rw [Table.sorted, Names.ascending, eraseDups_of_nodup distinct]
  exact List.map_mergeSort fun _ _ _ _ => rfl

end StorageTrace
