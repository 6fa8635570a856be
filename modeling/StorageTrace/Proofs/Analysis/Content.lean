import Mathlib.Data.List.DropRight
import Mathlib.Data.List.Induction
import StorageTrace.Proofs.Analysis.Retained

/-! # The content of a history

After any appends and retirements the list of an entity is what was appended under it since it was last
dropped: the last snapshots of it, as many as the capacity allows, each with its time raised to the latest up
to it. Snapshots that have been evicted still count for the times, as long as the entity is not dropped.
-/

namespace StorageTrace

theorem Table.keys_filter_key {κ α : Type} (table : Table κ α) (keep : κ → Bool) :
    (table.filter fun key _ => keep key).keys = table.keys.filter keep :=
  List.filter_map.symm

namespace History

/-- One use of a history that changes it. The key need not be the entity that the snapshot names. -/
inductive Call where
  | append (entity : String) (snapshot : Snapshot)
  | retain (keep : String → Bool)

namespace Call

/-- The call drops whatever is kept of an entity. -/
def drops (entity : String) : Call → Bool
  | .append _ _ => false
  | .retain keep => !keep entity

/-- What the call appends under an entity. -/
def appended? (entity : String) : Call → Option Snapshot
  | .append key snapshot => if key = entity then some snapshot else none
  | .retain _ => none

end Call

/-- The history after one use. -/
def answer (history : History) : Call → History
  | .append entity snapshot => history.append entity snapshot
  | .retain keep => (history.retain keep).1

/-- A new history after some uses. -/
def run (capacity : Nat) (calls : List Call) : History := calls.foldl answer (new capacity)

/-- The snapshots appended under an entity since it was last dropped. -/
def recorded (entity : String) (calls : List Call) : List Snapshot :=
  (calls.rtakeWhile fun call => !call.drops entity).filterMap (·.appended? entity)

/-! ## One use more -/

section Step

variable (capacity : Nat) (calls : List Call) (call : Call) (entity : String)

theorem run_concat : run capacity (calls ++ [call]) = (run capacity calls).answer call :=
  List.foldl_append

theorem capacity_run : (run capacity calls).capacity = max capacity 1 := by
  induction calls using List.reverseRecOn with
  | nil => rfl
  | append_singleton calls call ih =>
    rw [run_concat, ← ih]
    cases call with
    | append entity snapshot => rfl
    | retain keep => rfl

theorem recorded_concat :
    recorded entity (calls ++ [call]) =
      if call.drops entity then [] else recorded entity calls ++ (call.appended? entity).toList := by
  rw [recorded, List.rtakeWhile_concat]
  cases call.drops entity with
  | true => rfl
  | false =>
    rw [if_pos (Bool.not_false), List.filterMap_append]
    cases kept : call.appended? entity with
    | none => simp [recorded, kept]
    | some snapshot => simp [recorded, kept]

/-- What is retained of an entity are the last snapshots recorded of it, with their times raised. -/
theorem all_run :
    (run capacity calls).all entity = lastOf (max capacity 1) (raised (recorded entity calls)) := by
  induction calls using List.reverseRecOn with
  | nil => simp [run, new, all, Table.find?_empty, recorded, raised, lastOf]
  | append_singleton calls call ih =>
    rw [run_concat, recorded_concat]
    cases call with
    | append key snapshot =>
      rw [answer, all_append, capacity_run]
      by_cases own : entity = key
      · subst own
        have extended := extend_lastOf_raised (Nat.le_max_right capacity 1) (recorded entity calls) snapshot
        rw [← ih] at extended
        simpa [Call.drops, Call.appended?, extend] using extended
      · simp [Call.drops, Call.appended?, own, Ne.symm own, ih]
    | retain keep =>
      rw [answer, all_retain, ih]
      cases kept : keep entity with
      | true => simp [Call.drops, Call.appended?, kept]
      | false => simp [Call.drops, kept, raised, lastOf]

end Step

/-- A further snapshot is raised to the latest time of all that were recorded, evicted or not. -/
theorem latest?_append (capacity : Nat) (calls : List Call) (entity : String) (snapshot : Snapshot) :
    ((run capacity calls).append entity snapshot).latest? entity =
      some { snapshot with timestamp := latestTime snapshot.timestamp (recorded entity calls) } := by
  have content := all_run capacity (calls ++ [.append entity snapshot]) entity
  have appended : recorded entity (calls ++ [.append entity snapshot]) = recorded entity calls ++ [snapshot] := by
    simp [recorded_concat, Call.drops, Call.appended?]
  rw [run_concat, answer, appended, raised_append] at content
  rw [latest?, content, getLast?_lastOf (Nat.le_max_right ..), List.getLast?_concat]

/-! ## Times -/

/-- No raised time is beyond the latest of all. -/
theorem le_latestTime_of_mem_raised (time : Instant) {snapshots : List Snapshot} {snapshot : Snapshot}
    (member : snapshot ∈ raised snapshots) :
    snapshot.timestamp.nanos ≤ (latestTime time snapshots).nanos := by
  induction snapshots using List.reverseRecOn generalizing time with
  | nil => simp [raised] at member
  | append_singleton snapshots last ih =>
    have below : snapshot.timestamp.nanos ≤ (latestTime last.timestamp snapshots).nanos := by
      rw [raised_append] at member
      rcases List.mem_append.1 member with before | here
      · exact ih _ before
      · obtain rfl := List.mem_singleton.1 here
        exact Int.le_refl _
    rw [latestTime_append]
    exact Int.le_trans below (Int.le_max_right ..)

/-- Raised times do not decrease. -/
theorem pairwise_raised (snapshots : List Snapshot) :
    (raised snapshots).Pairwise fun earlier later => earlier.timestamp.nanos ≤ later.timestamp.nanos := by
  induction snapshots using List.reverseRecOn with
  | nil => exact .nil
  | append_singleton snapshots snapshot ih =>
    rw [raised_append, List.pairwise_append]
    refine ⟨ih, List.pairwise_singleton _ _, ?_⟩
    intro earlier member later last
    rw [List.mem_singleton.1 last]
    exact le_latestTime_of_mem_raised _ member

/-! ## Entities -/

/-- Whatever is stored is a list with at least one snapshot. -/
def Stocked (history : History) : Prop :=
  ∀ entity retained, history.entries.find? entity = some retained → retained ≠ []

theorem stocked_run (capacity : Nat) (calls : List Call) : (run capacity calls).Stocked := by
  induction calls using List.reverseRecOn with
  | nil =>
    intro entity retained stored
    cases stored
  | append_singleton calls call ih =>
    have positive : 1 ≤ (run capacity calls).capacity := by
      rw [capacity_run]
      exact Nat.le_max_right ..
    rw [run_concat]
    intro entity retained stored
    cases call with
    | append key snapshot =>
      rw [answer, append, Table.find?_insert] at stored
      split at stored
      · cases stored
        rw [← List.getLast?_isSome, getLast?_lastOf positive, List.getLast?_concat]
        rfl
      · exact ih entity retained stored
    | retain keep =>
      rw [answer, retain, Table.find?_filter_key] at stored
      split at stored
      · exact ih entity retained stored
      · cases stored

namespace Stocked

variable {history : History}

theorem mem_entities_iff (stocked : history.Stocked) (entity : String) :
    entity ∈ history.entities ↔ history.all entity ≠ [] := by
  rw [entities, Table.mem_keys_iff, all]
  cases stored : history.entries.find? entity with
  | none => simp
  | some retained => simpa using stocked entity retained stored

theorem isEmpty_iff (stocked : history.Stocked) :
    history.isEmpty = true ↔ ∀ entity, history.all entity = [] := by
  have unlisted : history.isEmpty = true ↔ ∀ entity, entity ∉ history.entities := by
    rw [isEmpty, Table.isEmpty, List.isEmpty_iff, entities, Table.keys, ← List.eq_nil_iff_forall_not_mem,
      List.map_eq_nil_iff]
  rw [unlisted]
  refine forall_congr' fun entity => ?_
  rw [stocked.mem_entities_iff, not_not]

end Stocked

/-- Retiring counts the entities that the test rejects. -/
theorem retain_count (history : History) (keep : String → Bool) :
    (history.retain keep).2 = (history.entities.filter fun entity => !keep entity).length := by
  have size (table : Table String (List Snapshot)) : table.size = table.keys.length :=
    (List.length_map _).symm
  have split := List.length_eq_length_filter_add (l := history.entities) keep
  rw [retain, size, size, Table.keys_filter_key, ← entities]
  omega

/-- After any appends and retirements, what is retained of an entity are the snapshots appended under it since
it was last dropped, the last of them up to the capacity, each with its time raised to the latest of those
appended until then. So times do not decrease, the capacity is kept, and a further snapshot is raised to the
latest time of all that were recorded, evicted or not, and leaves other entities alone. The lookups agree with
what is retained, and retiring tells how many entities it removes. -/
theorem retains_recorded (capacity : Nat) (calls : List Call) :
    let history := run capacity calls
    (∀ entity,
      history.all entity = lastOf (max capacity 1) (raised (recorded entity calls)) ∧
      (history.all entity).Pairwise (fun earlier later =>
        earlier.timestamp.nanos ≤ later.timestamp.nanos) ∧
      (history.all entity).length ≤ max capacity 1 ∧
      history.latest? entity = (history.all entity).getLast? ∧
      history.length entity = (history.all entity).length ∧
      (entity ∈ history.entities ↔ history.all entity ≠ [])) ∧
    (∀ entity snapshot,
      (history.append entity snapshot).latest? entity =
        some { snapshot with timestamp := latestTime snapshot.timestamp (recorded entity calls) } ∧
      ∀ other, other ≠ entity → (history.append entity snapshot).all other = history.all other) ∧
    history.entities.Nodup ∧
    (history.isEmpty = true ↔ ∀ entity, history.all entity = []) ∧
    ∀ keep,
      (history.retain keep).1.entities = history.entities.filter keep ∧
      (history.retain keep).2 = (history.entities.filter fun entity => !keep entity).length := by
  intro history
  have stocked := stocked_run capacity calls
  refine ⟨?_, ?_, history.entries.distinct, stocked.isEmpty_iff, ?_⟩
  · intro entity
    have content := all_run capacity calls entity
    refine ⟨content, ?_, ?_, rfl, rfl, stocked.mem_entities_iff entity⟩
    · rw [content]
      exact (pairwise_raised _).sublist (List.drop_sublist ..)
    · rw [content, length_lastOf]
      exact Nat.min_le_left ..
  · intro entity snapshot
    refine ⟨latest?_append capacity calls entity snapshot, ?_⟩
    intro other apart
    rw [all_append, if_neg apart]
  · intro keep
    exact ⟨history.entries.keys_filter_key keep, history.retain_count keep⟩

/-- With room for one snapshot, the first is evicted and still holds the time of the second. Once the entity
has been dropped it does not count any more, neither for the entity nor for another. -/
theorem retains_recorded_evicted :
    let early : Snapshot := { entity := "db", timestamp := ⟨5⟩ }
    let late : Snapshot := { entity := "db", timestamp := ⟨10⟩ }
    let kept : List Call := [.append "db" late, .append "db" early]
    let dropped : List Call := kept ++ [.append "web" early, .retain (· ≠ "db")]
    (run 0 kept).all "db" = [{ early with timestamp := ⟨10⟩ }] ∧
      ((run 0 kept).append "db" early).latest? "db" = some { early with timestamp := ⟨10⟩ } ∧
      (run 0 dropped).all "db" = [] ∧
      ((run 0 dropped).append "db" early).latest? "db" = some early ∧
      ((run 0 dropped).append "db" late).all "web" = (run 0 dropped).all "web" := by
  intro early late kept dropped
  obtain ⟨each, more, -⟩ := retains_recorded 0 kept
  obtain ⟨eachLater, moreLater, -⟩ := retains_recorded 0 dropped
  obtain ⟨content, -⟩ := each "db"
  obtain ⟨clamped, -⟩ := more "db" early
  obtain ⟨emptied, -⟩ := eachLater "db"
  obtain ⟨fresh, -⟩ := moreLater "db" early
  obtain ⟨-, others⟩ := moreLater "db" late
  exact ⟨content, clamped, emptied, fresh, others "web" (by decide)⟩

end History

end StorageTrace
