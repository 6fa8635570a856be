import Mathlib.Data.List.Induction
import StorageTrace.Proofs.Aggregation.Round
import StorageTrace.Proofs.Names.ByteOrder

/-! # What a slot shows when nothing completed in it

Over a run of rounds, a slot in which nothing completed shows the latency of the latest earlier round in
which something did, if the entity has been present in every round from then on, and zero otherwise. A
policy of resetting shows zero at once.
-/

namespace StorageTrace

namespace Snapshot

/-- The latency that a snapshot shows for a slot. -/
def latency (snapshot : Snapshot) : Slot → UInt64
  | .read => snapshot.readLatency
  | .write => snapshot.writeLatency
  | .queue => snapshot.queueLatency
  | .disk => snapshot.diskLatency
  | .network => snapshot.networkLatency

end Snapshot

namespace Round

/-- Some earlier round is the latest in which the slot completed, with the given latency, and the entity
has been present in every round after it. -/
def Held (earlier : List Round) (entity : String) (slot : Slot) (latency : UInt64) : Prop :=
  ∃ before source after, earlier = before ++ source :: after ∧ source.Completes entity slot latency ∧
    ∀ between ∈ after, between.Present entity ∧ between.Idle entity slot

/-- What a slot of an entity is to show in a round that follows earlier ones. -/
inductive Shows (policy : IdleLatency) (earlier : List Round) (round : Round) (entity : String)
    (slot : Slot) : UInt64 → Prop where
  | completed {latency : UInt64} (completes : round.Completes entity slot latency) :
    Shows policy earlier round entity slot latency
  | reset (resets : policy = .reset) (idle : round.Idle entity slot) :
    Shows policy earlier round entity slot 0
  | retained {latency : UInt64} (retains : policy = .retain) (idle : round.Idle entity slot)
    (held : Held earlier entity slot latency) : Shows policy earlier round entity slot latency
  | forgotten (retains : policy = .retain) (idle : round.Idle entity slot)
    (unheld : ∀ latency, ¬ Held earlier entity slot latency) : Shows policy earlier round entity slot 0

/-- One round more takes over what completed in it, lets go of who is absent, and holds the rest. -/
theorem held_append_iff (earlier : List Round) (round : Round) (entity : String) (slot : Slot)
    (latency : UInt64) :
    Held (earlier ++ [round]) entity slot latency ↔
      round.Completes entity slot latency ∨
        round.Present entity ∧ round.Idle entity slot ∧ Held earlier entity slot latency := by
  constructor
  · rintro ⟨before, source, after, split, completes, since⟩
    rcases List.eq_nil_or_concat after with rfl | ⟨between, last, rfl⟩
    · have same := (List.append_inj' split rfl).2
      cases same
      exact .inl completes
    · rw [List.concat_eq_append, ← List.cons_append, ← List.append_assoc] at split
      obtain ⟨shorter, same⟩ := List.append_inj' split rfl
      cases same
      rw [List.concat_eq_append] at since
      obtain ⟨present, idle⟩ := since round (List.mem_append_right _ (List.mem_singleton.2 rfl))
      refine .inr ⟨present, idle, before, source, between, shorter, completes, ?_⟩
      intro other member
      exact since other (List.mem_append_left _ member)
  · rintro (completes | ⟨present, idle, before, source, after, rfl, completes, since⟩)
    · exact ⟨earlier, round, [], rfl, completes, by simp⟩
    · refine ⟨before, source, after ++ [round], by simp, completes, ?_⟩
      intro other member
      rcases List.mem_append.1 member with between | last
      · exact since other between
      · rw [List.mem_singleton.1 last]
        exact ⟨present, idle⟩

end Round

namespace Aggregator

/-- A slot shows the latency of the operations that completed, or else what the policy says. -/
theorem get_latencies (aggregator : Aggregator) (totals : EntityTotals) (entity : String) (slot : Slot) :
    (aggregator.latencies totals entity).get slot =
      if (totals.get slot).operations ≠ 0 then (totals.get slot).lastLatency
      else
        match aggregator.idle with
        | .retain => (aggregator.priorOf entity).get slot
        | .reset => 0 :=
  PerSlot.get_ofFn _ slot

theorem latency_snapshot (aggregator : Aggregator) (round : Round) (entity : String) (slot : Slot) :
    (aggregator.snapshot round.window round.listed round.elapsed round.now entity).latency slot =
      (aggregator.latencies (totalsOf round.window entity) entity).get slot := by
  cases slot with
  | read => rfl
  | write => rfl
  | queue => rfl
  | disk => rfl
  | network => rfl

theorem get_latencies_of_completes (aggregator : Aggregator) {round : Round} {entity : String}
    {slot : Slot} {latency : UInt64} (completes : round.Completes entity slot latency) :
    (aggregator.latencies (totalsOf round.window entity) entity).get slot = latency := by
  obtain ⟨counted, last⟩ := (completes_iff ..).1 completes
  rw [get_latencies, if_pos counted, last]

theorem get_latencies_of_idle (aggregator : Aggregator) {round : Round} {entity : String} {slot : Slot}
    (idle : round.Idle entity slot) :
    (aggregator.latencies (totalsOf round.window entity) entity).get slot =
      match aggregator.idle with
      | .retain => (aggregator.priorOf entity).get slot
      | .reset => 0 := by
  rw [get_latencies, if_neg (not_not.2 ((idle_iff ..).1 idle))]

/-- Under the policy of retaining, what is carried over is the latency held, or zero if none is. -/
theorem priorOf_after (defaultNamespace : String) (earlier : List Round) (entity : String) (slot : Slot) :
    let prior := ((({ defaultNamespace } : Aggregator).after earlier).priorOf entity).get slot
    (∀ latency, Round.Held earlier entity slot latency → prior = latency) ∧
      ((∀ latency, ¬ Round.Held earlier entity slot latency) → prior = 0) := by
  induction earlier using List.reverseRecOn with
  | nil =>
    refine ⟨?_, fun _ => ?_⟩
    · rintro latency ⟨before, source, after, split, _⟩
      simp at split
    · exact PerSlot.get_fill 0 slot
  | append_singleton earlier round ih =>
    generalize aggregator : ({ defaultNamespace } : Aggregator).after earlier = current at ih
    have retains : current.idle = .retain := by
      rw [← aggregator]
      exact idle_after _ earlier
    obtain ⟨held, unheld⟩ := ih
    dsimp only
    rw [after_append, aggregator, priorOf_answer]
    refine ⟨fun latency holds => ?_, fun lost => ?_⟩
    · rcases (Round.held_append_iff ..).1 holds with completes | ⟨present, idle, earlierHolds⟩
      · rw [if_pos completes.present, get_latencies_of_completes current completes]
      · rw [if_pos present, get_latencies_of_idle current idle, retains]
        exact held latency earlierHolds
    · by_cases present : round.Present entity
      · have idle : round.Idle entity slot := fun latency completes =>
          lost latency ((Round.held_append_iff ..).2 (.inl completes))
        rw [if_pos present, get_latencies_of_idle current idle, retains]
        refine unheld fun latency earlierHolds => ?_
        exact lost latency ((Round.held_append_iff ..).2 (.inr ⟨present, idle, earlierHolds⟩))
      · rw [if_neg present, PerSlot.get_fill]

/-- After any rounds, a slot shows what it is to show and nothing else. -/
theorem shows_iff (policy : IdleLatency) (defaultNamespace : String) (earlier : List Round)
    (round : Round) (entity : String) (slot : Slot) (latency : UInt64) :
    round.Shows policy earlier entity slot latency ↔
      ((({ idle := policy, defaultNamespace } : Aggregator).after earlier).latencies
        (totalsOf round.window entity) entity).get slot = latency := by
  generalize aggregator :
    ({ idle := policy, defaultNamespace } : Aggregator).after earlier = current
  have settled : current.idle = policy := by
    rw [← aggregator]
    exact idle_after _ earlier
  constructor
  · intro shows
    cases shows with
    | completed completes => exact current.get_latencies_of_completes completes
    | reset resets idle => rw [current.get_latencies_of_idle idle, settled, resets]
    | retained retains idle held =>
      rw [current.get_latencies_of_idle idle, settled, retains, ← aggregator, retains]
      exact (priorOf_after defaultNamespace earlier entity slot).1 latency held
    | forgotten retains idle unheld =>
      rw [current.get_latencies_of_idle idle, settled, retains, ← aggregator, retains]
      exact (priorOf_after defaultNamespace earlier entity slot).2 unheld
  · rintro rfl
    by_cases idle : round.Idle entity slot
    · rw [current.get_latencies_of_idle idle, settled]
      cases policy with
      | reset => exact .reset rfl idle
      | retain =>
        obtain ⟨held, unheld⟩ := priorOf_after defaultNamespace earlier entity slot
        rw [← aggregator]
        by_cases kept : ∃ latency, Round.Held earlier entity slot latency
        · obtain ⟨latency, holds⟩ := kept
          have prior := held latency holds
          rw [← prior] at holds
          exact .retained rfl idle holds
        · rw [not_exists] at kept
          have prior := unheld kept
          dsimp only at prior ⊢
          rw [prior]
          exact .forgotten rfl idle kept
    · obtain ⟨latency, completes⟩ : ∃ latency, round.Completes entity slot latency := by
        rw [Round.Idle, not_forall] at idle
        obtain ⟨latency, completes⟩ := idle
        exact ⟨latency, not_not.1 completes⟩
      rw [current.get_latencies_of_completes completes]
      exact .completed completes

theorem namespaceOf_eq (aggregator : Aggregator) (listed : List EntityInfo) (entity : String) :
    aggregator.namespaceOf listed entity =
      ((listed.find? fun info => info.name = entity).map (·.namespaceName)).getD
        aggregator.defaultNamespace := by
  unfold namespaceOf
  split
  · rename_i info found
    rw [found]
    rfl
  · rename_i unlisted
    rw [unlisted]
    rfl

/-- In every round of every run, the aggregator answers with one snapshot for each entity that is listed
or in the window, in ascending order of the bytes of their names. A snapshot carries the time of the
round, the namespace of the first listing of its entity, and in each slot what that slot is to show. The
order of the window does not matter. -/
theorem answer_shows (policy : IdleLatency) (defaultNamespace : String) (earlier : List Round)
    (round : Round) :
    let aggregator := ({ idle := policy, defaultNamespace } : Aggregator).after earlier
    let snapshots := (aggregator.answer round).1
    snapshots.Pairwise (fun left right => Names.bytes left.entity < Names.bytes right.entity) ∧
    (∀ entity, entity ∈ snapshots.map (·.entity) ↔ round.Present entity) ∧
    (∀ snapshot ∈ snapshots,
      snapshot.timestamp = round.now ∧
      snapshot.namespaceName =
        ((round.listed.find? fun info => info.name = snapshot.entity).map (·.namespaceName)).getD
          defaultNamespace ∧
      ∀ slot latency,
        round.Shows policy earlier snapshot.entity slot latency ↔ snapshot.latency slot = latency) ∧
    ∀ window, window.Perm round.window →
      aggregator.aggregate window round.listed round.elapsed round.now = aggregator.answer round := by
  intro aggregator snapshots
  refine ⟨?_, aggregator.mem_entities_answer round, ?_, ?_⟩
  · have ascending : (snapshots.map (·.entity)).Pairwise (· < ·) := by
      rw [aggregator.entities_answer round]
      exact Names.pairwise_ascending _
    exact (List.pairwise_map.1 ascending).imp Names.bytes_lt_of_lt
  · intro snapshot member
    have same := eq_snapshot_of_mem member
    have settled : aggregator.defaultNamespace = defaultNamespace :=
      congrArg Prod.snd (policy_after { idle := policy, defaultNamespace } earlier)
    refine ⟨congrArg Snapshot.timestamp same, ?_, ?_⟩
    · rw [← settled, ← namespaceOf_eq]
      exact congrArg Snapshot.namespaceName same
    · intro slot latency
      have shown := (congrArg (·.latency slot) same).trans (latency_snapshot ..)
      rw [shows_iff policy defaultNamespace, shown]
  · intro window perm
    exact aggregator.aggregate_perm perm round.distinct round.listed round.elapsed round.now

/-- A database reads, rests for a round in which it is listed, and is listed twice in the next, in which
somebody unlisted uses the disk. -/
def readsThenRests : List Round :=
  [{ window := [("db", (PerSlot.fill {}).modify .read fun _ => { operations := 2, lastLatency := 5000 })]
     distinct := by decide
     listed := []
     elapsed := ⟨1⟩
     now := ⟨10⟩ },
    { window := [], distinct := by decide, listed := [{ name := "db" }], elapsed := ⟨1⟩, now := ⟨20⟩ }]

/-- The round that follows. -/
def listedTwice : Round :=
  { window := [("ghost", (PerSlot.fill {}).modify .disk fun _ => { operations := 1, lastLatency := 70 })]
    distinct := by decide
    listed := [{ name := "db", namespaceName := "data" }, { name := "db", namespaceName := "late" }]
    elapsed := ⟨1⟩
    now := ⟨15⟩ }

theorem answer_shows_held_read :
    ∃ db ∈ ((({ defaultNamespace := "fallback" } : Aggregator).after readsThenRests).answer listedTwice).1,
      db.entity = "db" ∧ db.timestamp = ⟨15⟩ ∧ db.namespaceName = "data" ∧
        db.latency .read = 5000 ∧ db.latency .disk = 0 := by
  obtain ⟨_, entities, each, _⟩ := answer_shows .retain "fallback" readsThenRests listedTwice
  obtain ⟨db, member, named⟩ := List.mem_map.1 ((entities "db").2 (by decide))
  obtain ⟨timestamp, namespaceName, shows⟩ := each db member
  rw [named] at namespaceName shows
  have restsInRead : listedTwice.Idle "db" .read := (idle_iff ..).2 (by decide)
  have restsInDisk : listedTwice.Idle "db" .disk := (idle_iff ..).2 (by decide)
  have held : Round.Held readsThenRests "db" .read 5000 := by
    refine ⟨[], _, _, rfl, (completes_iff ..).2 (by decide), ?_⟩
    intro between member
    rw [List.mem_singleton.1 member]
    exact ⟨by decide, (idle_iff ..).2 (by decide)⟩
  have unheld : ∀ latency, ¬ Round.Held readsThenRests "db" .disk latency := by
    rintro latency ⟨before, source, after, split, completes, _⟩
    have rested : ∀ round ∈ readsThenRests, round.Idle "db" .disk := by
      intro round member
      rw [idle_iff]
      revert round
      decide
    refine rested source ?_ latency completes
    rw [split]
    exact List.mem_append_right _ List.mem_cons_self
  refine ⟨db, member, named, timestamp, namespaceName, ?_, ?_⟩
  · exact (shows .read 5000).1 (.retained rfl restsInRead held)
  · exact (shows .disk 0).1 (.forgotten rfl restsInDisk unheld)

end Aggregator

end StorageTrace
