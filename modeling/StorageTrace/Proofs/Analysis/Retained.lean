import StorageTrace.History

/-! # What a bounded list retains

A list that takes in one snapshot after another, each clamped to the time of the one before it and the
oldest dropped beyond the capacity, retains the last snapshots with their times raised to the latest time
up to them. What has been dropped still counts for the times.
-/

namespace StorageTrace

namespace History

/-- The list of an entity with one more snapshot. -/
def extend (capacity : Nat) (retained : List Snapshot) (snapshot : Snapshot) : List Snapshot :=
  lastOf capacity (retained ++ [clamp retained.getLast? snapshot])

/-- The latest of a time and the times of some snapshots. -/
def latestTime (time : Instant) : List Snapshot → Instant
  | [] => time
  | snapshot :: rest => snapshot.timestamp.latest (latestTime time rest)

/-- The snapshots with their times raised, each to the latest of its own time and those before it. -/
def raised (snapshots : List Snapshot) : List Snapshot :=
  snapshots.mapIdx fun place snapshot =>
    { snapshot with timestamp := latestTime snapshot.timestamp (snapshots.take place) }

/-! ## The last elements of a list -/

section LastOf

variable {α : Type}

theorem length_lastOf (count : Nat) (elements : List α) :
    (lastOf count elements).length = min count elements.length := by
  rw [lastOf, List.length_drop]
  omega

theorem getLast?_lastOf {count : Nat} (positive : 1 ≤ count) (elements : List α) :
    (lastOf count elements).getLast? = elements.getLast? := by
  by_cases empty : elements = []
  · rw [empty, lastOf, List.drop_nil]
  · have inside : elements.length - count < elements.length := by
      have := List.length_pos_iff.2 empty
      omega
    rw [lastOf, List.getLast?_drop, if_neg (by omega)]

/-- What falls off at one step would fall off at the next one too. -/
theorem lastOf_lastOf_append (count : Nat) (elements : List α) (last : α) :
    lastOf count (lastOf count elements ++ [last]) = lastOf count (elements ++ [last]) := by
  have kept := length_lastOf count elements
  unfold lastOf at kept ⊢
  rw [List.length_append, kept, List.length_append, List.length_singleton]
  by_cases short : elements.length ≤ count
  · have all : elements.length - count = 0 := by omega
    have none : min count elements.length + 1 - count = elements.length + 1 - count := by omega
    rw [all, List.drop_zero, none]
  · have one : min count elements.length + 1 - count = 1 := by omega
    have next : elements.length + 1 - count = (elements.length - count) + 1 := by omega
    rw [one, next, ← List.drop_append_of_le_length (by omega), List.drop_drop]

end LastOf

/-! ## Raised times -/

theorem length_raised (snapshots : List Snapshot) : (raised snapshots).length = snapshots.length :=
  List.length_mapIdx

/-- A later snapshot does not change the times of those before it. -/
theorem raised_append (snapshots : List Snapshot) (snapshot : Snapshot) :
    raised (snapshots ++ [snapshot]) =
      raised snapshots ++ [{ snapshot with timestamp := latestTime snapshot.timestamp snapshots }] := by
  have before : ∀ (place : Nat) (inside : place < snapshots.length),
      (snapshots ++ [snapshot]).take place = snapshots.take place := fun place inside =>
    List.take_append_of_le_length (Nat.le_of_lt inside)
  rw [raised, List.mapIdx_concat, List.take_left, raised]
  congr 1
  rw [List.mapIdx_eq_mapIdx_iff]
  intro place inside
  rw [before place inside]

theorem latestTime_append (time : Instant) (snapshots : List Snapshot) (snapshot : Snapshot) :
    latestTime time (snapshots ++ [snapshot]) =
      time.latest (latestTime snapshot.timestamp snapshots) := by
  induction snapshots with
  | nil =>
    simp only [List.nil_append, latestTime, Instant.latest, Instant.mk.injEq]
    omega
  | cons first rest ih =>
    rw [List.cons_append, latestTime, ih, latestTime]
    simp only [Instant.latest, Instant.mk.injEq]
    omega

/-- The snapshot at the end of a raised list has the latest time of all, so clamping to it is raising. -/
theorem clamp_raised (snapshots : List Snapshot) (snapshot : Snapshot) :
    clamp (raised snapshots).getLast? snapshot =
      { snapshot with timestamp := latestTime snapshot.timestamp snapshots } := by
  rcases List.eq_nil_or_concat snapshots with rfl | ⟨before, last, rfl⟩
  · rfl
  · rw [List.concat_eq_append, raised_append, List.getLast?_concat, latestTime_append, clamp]
    simp only [Instant.latest]
    split
    · rename_i earlier
      rw [Int.max_eq_right (Int.le_of_lt earlier)]
    · rename_i later
      rw [Int.max_eq_left (Int.not_lt.1 later)]

/-- One step on the last raised snapshots gives the last raised snapshots. -/
theorem extend_lastOf_raised {capacity : Nat} (positive : 1 ≤ capacity) (snapshots : List Snapshot)
    (snapshot : Snapshot) :
    extend capacity (lastOf capacity (raised snapshots)) snapshot =
      lastOf capacity (raised (snapshots ++ [snapshot])) := by
  rw [extend, getLast?_lastOf positive, clamp_raised, lastOf_lastOf_append, raised_append]

/-! ## One step -/

theorem getLast?_extend {capacity : Nat} (positive : 1 ≤ capacity) (retained : List Snapshot)
    (snapshot : Snapshot) :
    (extend capacity retained snapshot).getLast? = some (clamp retained.getLast? snapshot) := by
  rw [extend, getLast?_lastOf positive, List.getLast?_concat]

theorem clamp_entity (before : Option Snapshot) (snapshot : Snapshot) :
    (clamp before snapshot).entity = snapshot.entity := by
  unfold clamp
  split
  · split
    · rfl
    · rfl
  · rfl

theorem mem_extend {capacity : Nat} {retained : List Snapshot} {snapshot member : Snapshot}
    (present : member ∈ extend capacity retained snapshot) :
    member ∈ retained ∨ member = clamp retained.getLast? snapshot := by
  rw [extend, lastOf] at present
  rcases List.mem_append.1 (List.mem_of_mem_drop present) with before | now
  · exact .inl before
  · exact .inr (List.mem_singleton.1 now)

end History

end StorageTrace
