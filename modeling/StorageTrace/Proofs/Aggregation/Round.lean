import Mathlib.Data.List.Nodup
import StorageTrace.Aggregator

/-! # Rounds of aggregation

In each round the aggregator is handed a window, with one entry for each entity in it, and a listing. What
it says about an entity goes by that entity's entry and by what is carried over for that entity, wherever
the entry stands in the window. What is carried on are the latencies that it says, and for nobody else.
-/

namespace StorageTrace

/-- What the aggregator is handed in one round. -/
structure Round where
  window : List (String × EntityTotals)
  distinct : (window.map Prod.fst).Nodup
  listed : List EntityInfo
  elapsed : Duration
  now : Instant

namespace Round

/-- The entity is listed or in the window. -/
def Present (round : Round) (entity : String) : Prop :=
  entity ∈ round.listed.map (·.name) ∨ entity ∈ round.window.map Prod.fst

instance (round : Round) (entity : String) : Decidable (round.Present entity) :=
  inferInstanceAs (Decidable (_ ∨ _))

/-- Operations of the entity completed in the slot, the last of them with the given latency. -/
def Completes (round : Round) (entity : String) (slot : Slot) (latency : UInt64) : Prop :=
  ∃ totals, (entity, totals) ∈ round.window ∧ 0 < (totals.get slot).operations ∧
    (totals.get slot).lastLatency = latency

/-- Nothing of the entity completed in the slot. -/
def Idle (round : Round) (entity : String) (slot : Slot) : Prop :=
  ∀ latency, ¬ round.Completes entity slot latency

theorem Completes.present {round : Round} {entity : String} {slot : Slot} {latency : UInt64}
    (completes : round.Completes entity slot latency) : round.Present entity := by
  obtain ⟨totals, member, _⟩ := completes
  exact .inr (List.mem_map_of_mem member)

end Round

namespace Aggregator

/-! ## Reading a window -/

/-- With one entry for each entity, searching finds an entry exactly where it is. -/
theorem find?_window_iff {window : List (String × EntityTotals)} (distinct : (window.map Prod.fst).Nodup)
    (entity : String) (found : String × EntityTotals) :
    (window.reverse.find? fun entry => entry.1 = entity) = some found ↔
      found ∈ window ∧ found.1 = entity := by
  constructor
  · intro search
    exact ⟨List.mem_reverse.1 (List.mem_of_find?_eq_some search), by simpa using List.find?_some search⟩
  · rintro ⟨member, rfl⟩
    cases search : window.reverse.find? fun entry => entry.1 = found.1 with
    | none =>
      rw [List.find?_eq_none] at search
      exact absurd (decide_eq_true rfl) (search found (List.mem_reverse.2 member))
    | some other =>
      have named : other.1 = found.1 := by simpa using List.find?_some search
      have otherMember := List.mem_reverse.1 (List.mem_of_find?_eq_some search)
      rw [List.inj_on_of_nodup_map distinct otherMember member named]

theorem totalsOf_of_mem {window : List (String × EntityTotals)} (distinct : (window.map Prod.fst).Nodup)
    {entity : String} {totals : EntityTotals} (member : (entity, totals) ∈ window) :
    totalsOf window entity = totals := by
  rw [totalsOf, (find?_window_iff distinct entity (entity, totals)).2 ⟨member, rfl⟩]

theorem totalsOf_of_not_mem {window : List (String × EntityTotals)} {entity : String}
    (absent : entity ∉ window.map Prod.fst) : totalsOf window entity = PerSlot.fill {} := by
  have unfound : (window.reverse.find? fun entry => entry.1 = entity) = none := by
    rw [List.find?_eq_none]
    intro entry member
    rw [decide_eq_true_eq]
    rintro rfl
    exact absent (List.mem_map_of_mem (List.mem_reverse.1 member))
  rw [totalsOf, unfound]

/-- The order of the entries does not matter to what is read. -/
theorem totalsOf_perm {left right : List (String × EntityTotals)} (perm : left.Perm right)
    (distinct : (right.map Prod.fst).Nodup) (entity : String) :
    totalsOf left entity = totalsOf right entity := by
  have distinctLeft : (left.map Prod.fst).Nodup := (perm.map Prod.fst).nodup_iff.2 distinct
  by_cases present : entity ∈ right.map Prod.fst
  · obtain ⟨⟨name, totals⟩, member, rfl⟩ := List.mem_map.1 present
    rw [totalsOf_of_mem distinct member, totalsOf_of_mem distinctLeft (perm.mem_iff.2 member)]
  · have absent : entity ∉ left.map Prod.fst := fun member =>
      present ((perm.map Prod.fst).mem_iff.1 member)
    rw [totalsOf_of_not_mem present, totalsOf_of_not_mem absent]

/-- A slot completed with a latency if its totals count operations and show that latency. -/
theorem completes_iff (round : Round) (entity : String) (slot : Slot) (latency : UInt64) :
    round.Completes entity slot latency ↔
      ((totalsOf round.window entity).get slot).operations ≠ 0 ∧
        ((totalsOf round.window entity).get slot).lastLatency = latency := by
  constructor
  · rintro ⟨totals, member, counted, last⟩
    rw [totalsOf_of_mem round.distinct member]
    exact ⟨UInt64.pos_iff_ne_zero.1 counted, last⟩
  · rintro ⟨counted, last⟩
    by_cases present : entity ∈ round.window.map Prod.fst
    · obtain ⟨⟨name, totals⟩, member, rfl⟩ := List.mem_map.1 present
      rw [totalsOf_of_mem round.distinct member] at counted last
      exact ⟨totals, member, UInt64.pos_iff_ne_zero.2 counted, last⟩
    · rw [totalsOf_of_not_mem present, PerSlot.get_fill] at counted
      exact absurd rfl counted

theorem idle_iff (round : Round) (entity : String) (slot : Slot) :
    round.Idle entity slot ↔ ((totalsOf round.window entity).get slot).operations = 0 := by
  constructor
  · intro idle
    by_contra counted
    exact idle _ ((completes_iff ..).2 ⟨counted, rfl⟩)
  · intro uncounted latency completes
    exact ((completes_iff ..).1 completes).1 uncounted

/-! ## One round -/

/-- The snapshots of a round and the aggregator after it. -/
def answer (aggregator : Aggregator) (round : Round) : List Snapshot × Aggregator :=
  aggregator.aggregate round.window round.listed round.elapsed round.now

/-- The aggregator after some rounds. -/
def after (aggregator : Aggregator) (rounds : List Round) : Aggregator :=
  rounds.foldl (fun aggregator round => (aggregator.answer round).2) aggregator

theorem after_append (aggregator : Aggregator) (rounds : List Round) (round : Round) :
    aggregator.after (rounds ++ [round]) = ((aggregator.after rounds).answer round).2 := by
  rw [after, List.foldl_append]
  rfl

theorem mem_present (window : List (String × EntityTotals)) (listed : List EntityInfo) (entity : String) :
    entity ∈ present window listed ↔ entity ∈ listed.map (·.name) ∨ entity ∈ window.map Prod.fst := by
  rw [present, Names.mem_ascending, List.mem_append]

/-- A round answers with one snapshot for each entity, in ascending order. -/
theorem entities_answer (aggregator : Aggregator) (round : Round) :
    (aggregator.answer round).1.map (·.entity) = present round.window round.listed := by
  unfold answer aggregate
  dsimp only
  rw [List.map_map]
  exact List.map_id' _

theorem mem_entities_answer (aggregator : Aggregator) (round : Round) (entity : String) :
    entity ∈ (aggregator.answer round).1.map (·.entity) ↔ round.Present entity := by
  rw [entities_answer, mem_present]
  rfl

/-- Every snapshot of a round is the one of its entity. -/
theorem eq_snapshot_of_mem {aggregator : Aggregator} {round : Round} {snapshot : Snapshot}
    (member : snapshot ∈ (aggregator.answer round).1) :
    snapshot = aggregator.snapshot round.window round.listed round.elapsed round.now snapshot.entity := by
  obtain ⟨entity, _, rfl⟩ := List.mem_map.1 member
  rfl

/-- An entity of the round has one snapshot, and anybody else none. -/
theorem filter_answer (aggregator : Aggregator) (round : Round) (entity : String) :
    (aggregator.answer round).1.filter (·.entity = entity) =
      if round.Present entity then
        [aggregator.snapshot round.window round.listed round.elapsed round.now entity]
      else [] := by
  have once := (Names.nodup_ascending (round.listed.map (·.name) ++ round.window.map Prod.fst)).count
    (a := entity)
  unfold answer aggregate
  dsimp only
  rw [List.filter_map]
  change ((present round.window round.listed).filter (· = entity)).map _ = _
  rw [List.filter_eq, present, once]
  simp only [Names.mem_ascending, List.mem_append]
  change (List.replicate (if round.Present entity then 1 else 0) entity).map _ = _
  split
  · rfl
  · rfl

/-- Nobody is carried on but the entities of the round, each with the latencies that it shows. -/
theorem find?_carry_answer (aggregator : Aggregator) (round : Round) (entity : String) :
    (aggregator.answer round).2.carry.find? entity =
      if round.Present entity then
        some (aggregator.latencies (totalsOf round.window entity) entity)
      else none := by
  unfold answer aggregate
  dsimp only
  rw [Table.find?_ofList_map]
  simp only [mem_present]
  rfl

theorem priorOf_answer (aggregator : Aggregator) (round : Round) (entity : String) :
    (aggregator.answer round).2.priorOf entity =
      if round.Present entity then aggregator.latencies (totalsOf round.window entity) entity
      else PerSlot.fill 0 := by
  rw [priorOf, find?_carry_answer]
  split
  · rfl
  · rfl

/-- The policy of an aggregator, which no round changes. -/
def policy (aggregator : Aggregator) : IdleLatency × String :=
  (aggregator.idle, aggregator.defaultNamespace)

theorem policy_after (aggregator : Aggregator) (rounds : List Round) :
    (aggregator.after rounds).policy = aggregator.policy := by
  induction rounds generalizing aggregator with
  | nil => rfl
  | cons round rest ih => exact ih _

theorem idle_after (aggregator : Aggregator) (rounds : List Round) :
    (aggregator.after rounds).idle = aggregator.idle :=
  congrArg Prod.fst (policy_after aggregator rounds)

/-- The order of a window does not matter to the snapshots nor to what is carried on. -/
theorem aggregate_perm (aggregator : Aggregator) {left right : List (String × EntityTotals)}
    (perm : left.Perm right) (distinct : (right.map Prod.fst).Nodup) (listed : List EntityInfo)
    (elapsed : Duration) (now : Instant) :
    aggregator.aggregate left listed elapsed now = aggregator.aggregate right listed elapsed now := by
  have totals : totalsOf left = totalsOf right := funext (totalsOf_perm perm distinct)
  have entities : present left listed = present right listed := by
    refine Names.ascending_congr fun name => ?_
    rw [List.mem_append, List.mem_append, (perm.map Prod.fst).mem_iff]
  have snapshots : aggregator.snapshot left listed elapsed now =
      aggregator.snapshot right listed elapsed now := by
    funext entity
    rw [snapshot, snapshot, totals]
  rw [aggregate, aggregate, entities, snapshots, totals]

end Aggregator

end StorageTrace
