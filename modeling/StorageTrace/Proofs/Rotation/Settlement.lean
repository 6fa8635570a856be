import StorageTrace.Proofs.Rotation.Run
import StorageTrace.Proofs.Window.Totals

/-! # Every operation settles in one window

Whatever the order of batches, sweeps, refreshes and rotations, the windows record the operations
emitted so far, each in one window. A window that is rotated out and released is never held again, so
totals read from then on are final, and the totals of all windows sum to the operations.
-/

namespace StorageTrace

/-- Slot totals that sum to some operations. Counts and sums are words; the counts are exact while
the operations fit in a word. -/
structure Settles (totals : List SlotTotals) (operations : List Operation) : Prop where
  count : (totals.map (·.operations)).sum = UInt64.ofNat operations.length
  bytes : (totals.map (·.bytes)).sum = (operations.map (·.bytes)).sum
  latencySum : (totals.map (·.latencySum)).sum = (operations.map (·.duration)).sum
  exact_count : operations.length < 2 ^ 64 →
    (totals.map (·.operations.toNat)).sum = operations.length

namespace Rotation

/-! ## Shares of the operations -/

/-- A window that has recorded its share of the operations since it was opened. -/
def windowOf (share : Duration × List Operation) : Window :=
  ({ opened := share.1 } : Window).recordAll share.2

/-- The windows have recorded the operations, each operation in one of them. -/
def Divides (windows : List Window) (operations : List Operation) : Prop :=
  ∃ shares : List (Duration × List Operation),
    windows = shares.map windowOf ∧ (shares.flatMap Prod.snd).Perm operations

namespace Divides

variable {windows : List Window} {operations : List Operation}

theorem open_window (divides : Divides windows operations) (opened : Duration) :
    Divides (windows ++ [({ opened } : Window)]) operations := by
  obtain ⟨shares, rfl, perm⟩ := divides
  refine ⟨shares ++ [(opened, [])], by rw [List.map_append]; rfl, ?_⟩
  rwa [List.flatMap_append, List.flatMap_singleton, List.append_nil]

/-- Recording into one of the windows adds to the share of that window alone. -/
theorem record {place : Nat} {window : Window} (divides : Divides windows operations)
    (present : windows[place]? = some window) (more : List Operation) :
    Divides (windows.set place (window.recordAll more)) (operations ++ more) := by
  obtain ⟨shares, rfl, perm⟩ := divides
  rw [List.getElem?_map, Option.map_eq_some_iff] at present
  obtain ⟨⟨opened, share⟩, atPlace, rfl⟩ := present
  obtain ⟨bound, found⟩ := List.getElem?_eq_some_iff.1 atPlace
  refine ⟨shares.set place (opened, share ++ more), ?_, ?_⟩
  · rw [List.map_set]
    congr 1
    exact List.foldl_append.symm
  · have whole : shares = shares.take place ++ (opened, share) :: shares.drop (place + 1) := by
      rw [← found, ← List.drop_eq_getElem_cons, List.take_append_drop]
    rw [List.set_eq_take_append_cons_drop, if_pos bound]
    refine List.Perm.trans ?_ (perm.append_right more)
    conv => rhs; rw [whole]
    simp only [List.flatMap_append, List.flatMap_cons, List.append_assoc]
    -- a late record precedes those of later windows here, though it was emitted after them
    exact (List.perm_append_comm.append_left share).append_left _

/-- A figure summed over the windows is the sum of the weights of the operations. -/
theorem sum_figures {figure : SlotTotals → UInt64} {weight : Operation → UInt64}
    (accrues : Accrues figure weight) (divides : Divides windows operations) (entity : String)
    (slot : Slot) :
    (windows.map fun window => figure (window.slotTotals entity slot)).sum =
      ((chargedTo entity slot operations).map weight).sum := by
  obtain ⟨shares, rfl, perm⟩ := divides
  rw [← ((chargedTo_perm perm entity slot).map weight).sum_eq]
  clear perm
  induction shares with
  | nil => rfl
  | cons share rest ih =>
    rw [List.map_cons, List.map_cons, List.sum_cons, ih, List.flatMap_cons]
    rw [chargedTo_append, List.map_append, List.sum_append, windowOf,
      Window.accrues_recordAll accrues, Window.slotTotals_new, accrues.zero, UInt64.zero_add]

/-- The counts of the windows sum to the number of operations while that fits in a word. -/
theorem sum_counts (divides : Divides windows operations) (entity : String) (slot : Slot)
    (fits : (chargedTo entity slot operations).length < 2 ^ 64) :
    (windows.map fun window => (window.slotTotals entity slot).operations.toNat).sum =
      (chargedTo entity slot operations).length := by
  obtain ⟨shares, rfl, perm⟩ := divides
  have same : (chargedTo entity slot (shares.flatMap Prod.snd)).length =
      (chargedTo entity slot operations).length := (chargedTo_perm perm entity slot).length_eq
  rw [← same] at fits ⊢
  clear perm same
  induction shares with
  | nil => rfl
  | cons share rest ih =>
    rw [List.flatMap_cons, chargedTo_append, List.length_append] at fits ⊢
    rw [List.map_cons, List.map_cons, List.sum_cons, ih (by omega)]
    congr 1
    rw [windowOf, Window.accrues_recordAll Accrues.operations, Window.slotTotals_new, sum_ones,
      UInt64.zero_add, UInt64.toNat_ofNat', Nat.mod_eq_of_lt (by omega)]

theorem settles (divides : Divides windows operations) (entity : String) (slot : Slot) :
    Settles (windows.map (·.slotTotals entity slot)) (chargedTo entity slot operations) := by
  constructor <;> rw [List.map_map]
  · rw [← sum_ones]
    exact divides.sum_figures Accrues.operations entity slot
  · exact divides.sum_figures Accrues.bytes entity slot
  · exact divides.sum_figures Accrues.latencySum entity slot
  · exact divides.sum_counts entity slot

end Divides

/-! ## Runs -/

/-- The last window is in use, the operations emitted are divided among the windows, and the totals
read are those of windows that nothing can record into any more. -/
structure Sound (rotation : Rotation) : Prop where
  inUse : ∃ last, rotation.cell.current = some last ∧ last + 1 = rotation.windows.length
  divides : Divides rotation.windows rotation.emitted
  final : ∀ place totals, (place, totals) ∈ rotation.readings →
    rotation.cell.current ≠ some place ∧ rotation.held ≠ some place ∧
      ∃ window, rotation.windows[place]? = some window ∧ totals = window.totals

theorem sound_start (collector : Collector) (opened : Duration) : (start collector opened).Sound where
  inUse := ⟨0, rfl, rfl⟩
  divides := ⟨[(opened, [])], rfl, .nil⟩
  final := by simp [start]

/-- Every possible step keeps a rotation sound. -/
theorem Sound.step (rotation : Rotation) (act : Act) (next : Rotation) (sound : rotation.Sound)
    (stepped : rotation.step? act = some next) : next.Sound := by
  obtain ⟨⟨last, current, isLast⟩, divides, final⟩ := sound
  cases act with
  | load =>
    -- what was read is not in use, so the batch does not take hold of it
    simp only [step?] at stepped
    split at stepped
    · cases stepped
    · rw [current] at stepped
      cases stepped
      refine ⟨⟨last, current, isLast⟩, divides, ?_⟩
      intro place totals read
      obtain ⟨notInUse, _, recorded⟩ := final place totals read
      have notHeld : some last ≠ some place := by
        rw [← current]
        exact notInUse
      exact ⟨notInUse, notHeld, recorded⟩
  | process event =>
    obtain ⟨place, held, taken⟩ := Option.bind_eq_some_iff.1 stepped
    obtain ⟨window, present, rfl⟩ := Option.map_eq_some_iff.1 taken
    refine ⟨⟨last, current, ?_⟩, divides.record present _, ?_⟩
    · change last + 1 = (rotation.windows.set place _).length
      rw [List.length_set, isLast]
    · intro place' totals read
      obtain ⟨notInUse, notHeld, recorded⟩ := final place' totals read
      have apart : place ≠ place' := fun same => notHeld (same ▸ held)
      refine ⟨notInUse, notHeld, ?_⟩
      change ∃ window', (rotation.windows.set place _)[place']? = some window' ∧ _
      rwa [List.getElem?_set_ne apart]
  | release =>
    obtain ⟨place, held, rfl⟩ := Option.map_eq_some_iff.1 stepped
    refine ⟨⟨last, current, isLast⟩, divides, ?_⟩
    intro place' totals read
    obtain ⟨notInUse, _, recorded⟩ := final place' totals read
    exact ⟨notInUse, by simp, recorded⟩
  | sweep =>
    cases stepped
    exact ⟨⟨last, current, isLast⟩, divides, final⟩
  | refresh listed =>
    cases stepped
    exact ⟨⟨last, current, isLast⟩, divides, final⟩
  | rotate opened =>
    cases stepped
    refine ⟨⟨rotation.windows.length, rfl, by simp⟩, divides.open_window opened, ?_⟩
    intro place totals read
    obtain ⟨_, notHeld, window, present, same⟩ := final place totals read
    have earlier := (List.getElem?_eq_some_iff.1 present).1
    refine ⟨fun fresh => ?_, notHeld, window, ?_, same⟩
    · cases fresh
      omega
    · exact (List.getElem?_append_left earlier).trans present
  | read place =>
    simp only [step?] at stepped
    split at stepped
    · cases stepped
    · rename_i free
      rw [not_or] at free
      obtain ⟨window, present, rfl⟩ := Option.map_eq_some_iff.1 stepped
      refine ⟨⟨last, current, isLast⟩, divides, ?_⟩
      intro place' totals read
      rcases List.mem_append.1 read with before | now
      · exact final place' totals before
      · obtain ⟨rfl, rfl⟩ := Prod.mk.inj (List.mem_singleton.1 now)
        exact ⟨free.1, free.2, window, present, rfl⟩

/-- After every run, the totals of the windows that were rotated out, each read when no batch held it
any more, and the totals of the window in use sum to the operations emitted, for every entity and
slot. -/
theorem readings_settle_emitted (collector : Collector) (opened : Duration) (acts : List Act)
    (rotation : Rotation) (ran : (start collector opened).run? acts = some rotation)
    (rotated : List (List (String × EntityTotals)))
    (every : rotated.length + 1 = rotation.windows.length)
    (wereRead : ∀ place totals, rotated[place]? = some totals → (place, totals) ∈ rotation.readings)
    (entity : String) (slot : Slot) :
    ∃ current, rotation.inUse? = some current ∧
      Settles
        ((rotated ++ [current.totals]).map fun totals => (Aggregator.totalsOf totals entity).get slot)
        (chargedTo entity slot rotation.emitted) := by
  have sound : rotation.Sound := run?_preserves Sound.step (sound_start collector opened) ran
  obtain ⟨⟨last, current, isLast⟩, divides, final⟩ := sound
  obtain ⟨window, present⟩ : ∃ window, rotation.windows[last]? = some window :=
    ⟨rotation.windows[last], List.getElem?_eq_getElem (by omega)⟩
  refine ⟨window, by rw [inUse?, current, Option.bind_some, present], ?_⟩
  have same : rotated ++ [window.totals] = rotation.windows.map Window.totals := by
    apply List.ext_getElem?
    intro place
    rw [List.getElem?_map]
    rcases Nat.lt_trichotomy place rotated.length with earlier | rfl | beyond
    · have atPlace := List.getElem?_eq_getElem earlier
      obtain ⟨_, _, window', present', totals⟩ := final place _ (wereRead place _ atPlace)
      rw [List.getElem?_append_left earlier, atPlace, present', totals, Option.map_some]
    · obtain rfl : last = rotated.length := by omega
      rw [List.getElem?_concat_length, present, Option.map_some]
    · rw [List.getElem?_eq_none (by simp; omega), List.getElem?_eq_none (by omega), Option.map_none]
  rw [same, List.map_map]
  have figures : (fun window : Window => (Aggregator.totalsOf window.totals entity).get slot) =
      (·.slotTotals entity slot) := funext fun window => window.totalsOf_totals entity slot
  change Settles
    (rotation.windows.map fun window => (Aggregator.totalsOf window.totals entity).get slot) _
  rw [figures]
  exact divides.settles entity slot

/-- Two reads of one entity. The first one returns to a batch whose window was rotated out before; the
second one begins in that batch and returns when the index has forgotten the entity. -/
def lateReturns : List Act :=
  [.refresh [{ name := "a", cgroups := [7] }],
    .load,
    .process { probe := .readEntry, timestamp := 100, tid := 1, cgroup := 7 },
    .rotate ⟨50⟩,
    .process { probe := .readExit, timestamp := 160, tid := 1, bytes := 512 },
    .process { probe := .readEntry, timestamp := 200, tid := 2, cgroup := 7 },
    .release,
    .read 0,
    .refresh [],
    .sweep,
    .load,
    .process { probe := .readExit, timestamp := 230, tid := 2, bytes := 64 }]

theorem readings_settle_emitted_late_returns :
    let slot := Slot.ofStage .syscall .read
    ∃ rotation old new,
      (start { correlator := Correlator.new ⟨1000⟩ 16 } ⟨0⟩).run? lateReturns = some rotation ∧
      rotation.readings = [(0, old)] ∧ rotation.inUse? = some new ∧
      Settles ([old, new.totals].map fun totals => (Aggregator.totalsOf totals "a").get slot)
        (chargedTo "a" slot rotation.emitted) ∧
      rotation.emitted =
        [⟨"a", .read, .syscall, 60, 512, 160⟩, ⟨"a", .read, .syscall, 30, 64, 230⟩] := by
  intro slot
  obtain ⟨rotation, ran⟩ : ∃ rotation,
      (start { correlator := Correlator.new ⟨1000⟩ 16 } ⟨0⟩).run? lateReturns = some rotation :=
    ⟨_, rfl⟩
  obtain ⟨old, wasRead⟩ : ∃ old, rotation.readings = [(0, old)] := by
    cases ran
    exact ⟨_, rfl⟩
  have every : [old].length + 1 = rotation.windows.length := by
    cases ran
    rfl
  have emitted : rotation.emitted =
      [⟨"a", .read, .syscall, 60, 512, 160⟩, ⟨"a", .read, .syscall, 30, 64, 230⟩] := by
    cases ran
    rfl
  have wereRead : ∀ place totals, [old][place]? = some totals →
      (place, totals) ∈ rotation.readings := by
    intro place totals present
    obtain rfl : place = 0 := by
      have bound := (List.getElem?_eq_some_iff.1 present).1
      simpa using bound
    cases present
    rw [wasRead]
    exact List.mem_singleton.2 rfl
  obtain ⟨new, inUse, settles⟩ :=
    readings_settle_emitted _ _ _ rotation ran [old] every wereRead "a" slot
  exact ⟨rotation, old, new, ran, wasRead, inUse, settles, emitted⟩

end Rotation

end StorageTrace
