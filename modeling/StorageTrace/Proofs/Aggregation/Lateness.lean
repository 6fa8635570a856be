import StorageTrace.Proofs.Aggregation.Carry
import StorageTrace.Proofs.Cycle.Run
import StorageTrace.Proofs.Window.Newest

/-! # Latencies across windows

Each window guards its newest operation by itself, and a latency that is carried over brings no time with
it. So what a slot of a listed entity shows is the newest operation of the last window that has any. That is
the newest of all, unless an operation of an earlier window completed after everything in that one: then a
late delivery has taken the latency back to an older operation.
-/

namespace StorageTrace

/-! ## Windows of operations -/

/-- The last window that has operations, and none if no window has any. -/
def lastActive (windows : List (List Operation)) : List Operation :=
  (windows.filter fun window => !window.isEmpty).getLastD []

/-- An operation of an earlier window completed after everything in the last window that has any. -/
def Late (windows : List (List Operation)) : Prop :=
  ∃ before last after, windows = before ++ last :: after ∧ last ≠ [] ∧ (∀ window ∈ after, window = []) ∧
    ∃ early ∈ before.flatten, ∀ operation ∈ last, operation.completedAt < early.completedAt

theorem lastActive_concat (windows : List (List Operation)) (window : List Operation) :
    lastActive (windows ++ [window]) = if window = [] then lastActive windows else window := by
  unfold lastActive
  rw [List.filter_append]
  cases window <;> simp

theorem lastActive_of_idle {windows : List (List Operation)} (idle : ∀ window ∈ windows, window = []) :
    lastActive windows = [] := by
  have none : windows.filter (fun window => !window.isEmpty) = [] := by
    rw [List.filter_eq_nil_iff]
    intro window member
    simp [idle window member]
  rw [lastActive, none]
  rfl

/-- Windows without operations behind the last active one do not matter. -/
theorem lastActive_append {before after : List (List Operation)} {last : List Operation}
    (active : last ≠ []) (idle : ∀ window ∈ after, window = []) :
    lastActive (before ++ last :: after) = last := by
  induction after using List.reverseRecOn with
  | nil => rw [lastActive_concat, if_neg active]
  | append_singleton between window ih =>
    rw [← List.cons_append, ← List.append_assoc, lastActive_concat, if_pos (idle window (by simp))]
    exact ih fun other member => idle other (List.mem_append_left _ member)

/-- Either no window has operations, or one of them is the last that has. -/
theorem active_cases (windows : List (List Operation)) :
    (∀ window ∈ windows, window = []) ∨
      ∃ before last after, windows = before ++ last :: after ∧ last ≠ [] ∧
        ∀ window ∈ after, window = [] := by
  induction windows using List.reverseRecOn with
  | nil => exact .inl (by simp)
  | append_singleton earlier window ih =>
    by_cases empty : window = []
    · have longer {idle : List (List Operation)} (empties : ∀ window ∈ idle, window = []) :
          ∀ other ∈ idle ++ [window], other = [] := by
        intro other member
        rcases List.mem_append.1 member with inside | here
        · exact empties other inside
        · rw [List.mem_singleton.1 here, empty]
      rcases ih with idle | ⟨before, last, after, rfl, active, idle⟩
      · exact .inl (longer idle)
      · exact .inr ⟨before, last, after ++ [window], by simp, active, longer idle⟩
    · exact .inr ⟨earlier, window, [], rfl, empty, by simp⟩

theorem flatten_eq_of_idle {before after : List (List Operation)} {last : List Operation}
    (idle : ∀ window ∈ after, window = []) :
    (before ++ last :: after).flatten = before.flatten ++ last := by
  rw [List.flatten_append, List.flatten_cons, List.flatten_eq_nil_iff.2 idle, List.append_nil]

theorem exists_newest {operations : List Operation} (active : operations ≠ []) :
    ∃ newest, newest? operations = some newest := by
  rw [← Option.isSome_iff_exists, Option.isSome_iff_ne_none, ne_eq, newest?_eq_none_iff]
  exact active

/-- Where nothing comes late, the newest of the last active window is the newest of all. -/
theorem newest?_of_not_late {windows : List (List Operation)} (timely : ¬ Late windows) :
    newest? (lastActive windows) = newest? windows.flatten := by
  rcases active_cases windows with idle | ⟨before, last, after, rfl, active, idle⟩
  · rw [lastActive_of_idle idle, List.flatten_eq_nil_iff.2 idle]
  · obtain ⟨newest, found⟩ := exists_newest active
    rw [lastActive_append active idle, flatten_eq_of_idle idle, found]
    refine (newest?_eq_some_iff.2 ((newest?_eq_some_iff.1 found).append ?_)).symm
    intro early member
    by_contra later
    refine timely ⟨before, last, after, rfl, active, idle, early, member, ?_⟩
    intro operation present
    exact UInt64.lt_of_le_of_lt ((newest?_eq_some_iff.1 found).le present) (UInt64.not_le.1 later)

/-- Where something comes late, the newest of all completed after it. -/
theorem stale_of_late {windows : List (List Operation)} (late : Late windows) :
    ∃ stale newest, newest? (lastActive windows) = some stale ∧ stale ∈ windows.flatten ∧
      IsNewest windows.flatten newest ∧ stale.completedAt < newest.completedAt := by
  obtain ⟨before, last, after, rfl, active, idle, early, member, overtaken⟩ := late
  obtain ⟨stale, found⟩ := exists_newest active
  have inside := (newest?_eq_some_iff.1 found).mem
  rw [lastActive_append active idle, flatten_eq_of_idle idle]
  obtain ⟨newest, best⟩ := exists_newest (List.append_ne_nil_of_right_ne_nil before.flatten active)
  have latest := newest?_eq_some_iff.1 best
  refine ⟨stale, newest, found, List.mem_append_right _ inside, latest, ?_⟩
  exact UInt64.lt_of_lt_of_le (overtaken stale inside) (latest.le (List.mem_append_left _ member))

/-! ## Rotations -/

/-- What is recorded in one window, and what the cycle that rotates it is given. -/
structure Batch where
  operations : List Operation
  listed : List EntityInfo
  elapsed : Duration
  now : Instant

namespace Batch

/-- The cycle that rotates the window of the batch. -/
def cycle (batch : Batch) : Cycle where
  window := ({} : Window).recordAll batch.operations
  listed := batch.listed
  clock := batch.elapsed
  now := batch.now

/-- The operations of the batch that are charged to an entity and a slot. -/
def charged (entity : String) (slot : Slot) (batch : Batch) : List Operation :=
  chargedTo entity slot batch.operations

/-- The entity is listed, and the count of its operations in the slot does not wrap. -/
structure Tracks (batch : Batch) (entity : String) (slot : Slot) : Prop where
  listed : entity ∈ batch.listed.map (·.name)
  counted : (batch.charged entity slot).length < 2 ^ 64

theorem Tracks.present {batch : Batch} {entity : String} {slot : Slot}
    (tracks : batch.Tracks entity slot) : batch.cycle.round.Present entity := .inl tracks.listed

end Batch

namespace Aggregator

variable {entity : String} {slot : Slot}

/-- A batch shows its newest operation, and without one what is carried over. -/
theorem latencies_batch {aggregator : Aggregator} (retains : aggregator.idle = .retain) {batch : Batch}
    (tracks : batch.Tracks entity slot) :
    (aggregator.latencies (totalsOf batch.cycle.round.window entity) entity).get slot =
      if batch.charged entity slot = [] then (aggregator.priorOf entity).get slot
      else latencyOf (newest? (batch.charged entity slot)) := by
  have counted : UInt64.ofNat (batch.charged entity slot).length = 0 ↔ batch.charged entity slot = [] := by
    rw [← UInt64.toNat_inj, UInt64.toNat_ofNat', Nat.mod_eq_of_lt tracks.counted, UInt64.toNat_zero,
      List.length_eq_zero_iff]
  have totals : (totalsOf batch.cycle.round.window entity).get slot =
      (({} : Window).recordAll batch.operations).slotTotals entity slot :=
    Window.totalsOf_totals _ entity slot
  rw [get_latencies, totals, Window.operations_recordAll, Window.lastLatency_recordAll, retains]
  change (if UInt64.ofNat (batch.charged entity slot).length ≠ 0 then
    latencyOf (newest? (batch.charged entity slot)) else (aggregator.priorOf entity).get slot) = _
  simp only [ne_eq, counted, ite_not]

/-- What is carried on after some batches is the newest operation of the last active one. -/
theorem priorOf_batches (defaultNamespace : String) {batches : List Batch}
    (tracked : ∀ batch ∈ batches, batch.Tracks entity slot) :
    ((({ idle := .retain, defaultNamespace } : Aggregator).after
      (batches.map (·.cycle.round))).priorOf entity).get slot =
        latencyOf (newest? (lastActive (batches.map (Batch.charged entity slot)))) := by
  -- an idle batch hands on what it was handed, so the last active one is all that is left
  induction batches using List.reverseRecOn with
  | nil =>
    rw [List.map_nil, List.map_nil]
    simp [after, priorOf, Table.find?_empty, lastActive, newest?, latencyOf]
  | append_singleton earlier batch ih =>
    have tracks := tracked batch (by simp)
    have retains := idle_after { idle := .retain, defaultNamespace } (earlier.map (·.cycle.round))
    rw [List.map_append, List.map_singleton, after_append, priorOf_answer, if_pos tracks.present,
      latencies_batch retains tracks, ih fun other member => tracked other (List.mem_append_left _ member),
      List.map_append, List.map_singleton, lastActive_concat]
    split
    · rfl
    · rfl

/-- Under a policy of retaining, an entity that is listed in every cycle is reported once after each
rotation, and a slot shows the newest operation of the last window that has any for it. That is the newest
of all operations recorded for the slot so far as long as nothing comes late. Where something does, an
operation is shown that completed before the newest. -/
theorem latency_of_last_active_window (defaultNamespace : String) (earlier : List Batch) (batch : Batch)
    (entity : String) (slot : Slot)
    (tracked : ∀ each ∈ earlier ++ [batch], each.Tracks entity slot) :
    let aggregator := ({ idle := .retain, defaultNamespace } : Aggregator).after
      (earlier.map (·.cycle.round))
    let snapshots := (aggregator.answer batch.cycle.round).1
    let shown := (snapshots.filter (·.entity = entity)).map (·.latency slot)
    let windows := (earlier ++ [batch]).map (Batch.charged entity slot)
    shown = [latencyOf (newest? (lastActive windows))] ∧
      (¬ Late windows → shown = [latencyOf (newest? windows.flatten)]) ∧
      (Late windows → ∃ stale newest, shown = [stale.duration] ∧ stale ∈ windows.flatten ∧
        IsNewest windows.flatten newest ∧ stale.completedAt < newest.completedAt) := by
  intro aggregator snapshots shown windows
  have tracks := tracked batch (by simp)
  have retains : aggregator.idle = .retain := idle_after _ _
  have prior := priorOf_batches defaultNamespace fun other member =>
    tracked other (List.mem_append_left [batch] member)
  have once : shown = [latencyOf (newest? (lastActive windows))] := by
    unfold shown snapshots windows
    rw [filter_answer, if_pos tracks.present, List.map_singleton, latency_snapshot,
      latencies_batch retains tracks, prior, List.map_append, List.map_singleton, lastActive_concat]
    split
    · rfl
    · rfl
  refine ⟨once, ?_, ?_⟩
  · intro timely
    rw [once, newest?_of_not_late timely]
  · intro late
    obtain ⟨stale, newest, found, inside, latest, below⟩ := stale_of_late late
    exact ⟨stale, newest, by rw [once, found]; rfl, inside, latest, below⟩

/-- A remote operation of a database, and the cycle that rotates the window after it. -/
def remoteBatch (duration completedAt : UInt64) : Batch :=
  { operations := [{ entity := "db", direction := .read, stage := .remote, duration, completedAt }]
    listed := [{ name := "db" }]
    elapsed := ⟨1000000000⟩
    now := ⟨0⟩ }

/-- The second operation completed before the first and is delivered after the rotation. The slot then shows
the second, though the first is the newest. -/
theorem latency_of_last_active_window_late :
    let earlier := [remoteBatch 500 200]
    let batch := remoteBatch 100 100
    let aggregator := ({ idle := .retain } : Aggregator).after (earlier.map (·.cycle.round))
    let snapshots := (aggregator.answer batch.cycle.round).1
    let recorded := (earlier ++ [batch]).flatMap (·.operations)
    (snapshots.filter (·.entity = "db")).map (·.latency .network) = [100] ∧
      (newest? recorded).map (·.duration) = some 500 := by
  intro earlier batch aggregator snapshots recorded
  have tracked : ∀ each ∈ earlier ++ [batch], each.Tracks "db" .network := by
    intro each member
    simp only [earlier, batch, List.cons_append, List.nil_append, List.mem_cons, List.not_mem_nil,
      or_false] at member
    rcases member with rfl | rfl
    · exact ⟨by decide, by decide⟩
    · exact ⟨by decide, by decide⟩
  obtain ⟨shown, -⟩ := latency_of_last_active_window "default" earlier batch "db" .network tracked
  exact ⟨shown.trans rfl, by decide⟩

end Aggregator

end StorageTrace
