/-! # Lists of names

The names of a list, each once, in strictly ascending order of code points, which is also the order
of their UTF-8 bytes.
-/

namespace StorageTrace

theorem nodup_eraseDups {α : Type} [BEq α] [LawfulBEq α] : ∀ items : List α, items.eraseDups.Nodup
  | [] => by simp
  | item :: rest => by
    rw [List.eraseDups_cons, List.nodup_cons]
    exact ⟨by simp [List.mem_eraseDups], nodup_eraseDups _⟩
termination_by items => items.length
decreasing_by
  have := List.length_filter_le (fun other => !other == item) rest
  simp only [List.length_cons]
  omega

namespace Names

/-- The names of a list, each once, in ascending order. -/
def ascending (names : List String) : List String :=
  names.eraseDups.mergeSort fun left right => decide (left ≤ right)

theorem mem_ascending {names : List String} {name : String} :
    name ∈ ascending names ↔ name ∈ names := by
  rw [ascending, List.mem_mergeSort, List.mem_eraseDups]

theorem nodup_ascending (names : List String) : (ascending names).Nodup :=
  (List.mergeSort_perm _ _).nodup_iff.2 (nodup_eraseDups _)

/-- The list ascends strictly, so it is the only one of its names. -/
theorem pairwise_ascending (names : List String) : (ascending names).Pairwise (· < ·) := by
  have ordered : (ascending names).Pairwise fun left right => decide (left ≤ right) = true :=
    List.pairwise_mergeSort
      (fun _ _ _ first second => by
        simp only [decide_eq_true_eq] at first second ⊢
        exact String.le_trans first second)
      (fun left right => by
        rcases String.le_total left right with lower | higher <;> simp [*])
      _
  refine (ordered.and (nodup_ascending names)).imp fun {left right} both => ?_
  have below : left ≤ right := by simpa using both.1
  exact Std.lt_of_le_of_ne below both.2

/-- The list depends on which names there are alone, not on their order or number. -/
theorem ascending_congr {left right : List String} (same : ∀ name, name ∈ left ↔ name ∈ right) :
    ascending left = ascending right := by
  have perm : (ascending left).Perm (ascending right) := by
    refine (List.perm_ext_iff_of_nodup (nodup_ascending left) (nodup_ascending right)).2 fun name => ?_
    rw [mem_ascending, mem_ascending, same]
  refine List.Perm.eq_of_pairwise (fun first second _ _ below above => ?_) (pairwise_ascending left)
    (pairwise_ascending right) perm
  exact absurd (String.lt_trans below above) (String.lt_irrefl first)

end Names

end StorageTrace
