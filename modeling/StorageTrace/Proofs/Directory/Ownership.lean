import Mathlib.Data.Finset.Card
import Mathlib.Data.List.Forall2
import StorageTrace.Proofs.Directory.Merging
import StorageTrace.Proofs.Monitoring.Skipping

/-! # Who owns a cgroup

An index gives an id to the first entry of a listing that has it. In a merged listing an entry stands where
its name first appears and has the ids of all its appearances. So the owner of an id is the name that appears
first among all names with that id, though the appearance that brings the id may be a later one.
-/

namespace StorageTrace

/-! ## The index of a listing -/

namespace OwnerIndex

/-- Of several claims on an id the first counts, unless the id had an owner already. -/
theorem find?_foldl_claim (entries : List (UInt64 × String)) (owners : Table UInt64 String) (id : UInt64) :
    (entries.foldl claim owners).find? id =
      (owners.find? id).or ((entries.find? fun entry => entry.1 = id).map Prod.snd) := by
  induction entries generalizing owners with
  | nil => simp
  | cons entry rest ih =>
    rw [List.foldl_cons, ih, List.find?_cons, claim]
    by_cases owned : owners.contains entry.1 = true
    · rw [if_pos owned]
      by_cases own : entry.1 = id
      · obtain ⟨owner, found⟩ := (owners.contains_iff entry.1).1 owned
        rw [own] at found
        simp [found]
      · simp [own]
    · rw [if_neg owned, Table.find?_insert]
      by_cases own : entry.1 = id
      · have unowned : owners.find? id = none := by
          rw [← own]
          simpa [Table.contains] using owned
        simp [own, unowned]
      · simp [own, Ne.symm own]

/-- The first claim on an id is that of the first entry that has it. -/
theorem find?_claims (infos : List EntityInfo) (id : UInt64) :
    ((claims infos).find? fun entry => entry.1 = id).map Prod.snd =
      (infos.find? fun info => id ∈ info.cgroups).map (·.name) := by
  induction infos with
  | nil => rfl
  | cons info rest ih =>
    have own : ((info.cgroups.map fun id => (id, info.name)).find? fun entry => entry.1 = id).map Prod.snd =
        if id ∈ info.cgroups then some info.name else none := by
      cases found : (info.cgroups.map fun id => (id, info.name)).find? fun entry => entry.1 = id with
      | none =>
        have unclaimed : id ∉ info.cgroups := fun listed =>
          absurd (decide_eq_true rfl) (List.find?_eq_none.1 found _ (List.mem_map_of_mem listed))
        rw [if_neg unclaimed, Option.map_none]
      | some entry =>
        obtain ⟨other, listed, rfl⟩ := List.mem_map.1 (List.mem_of_find?_eq_some found)
        obtain rfl : other = id := by simpa using List.find?_some found
        rw [if_pos listed, Option.map_some]
    rw [claims, List.flatMap_cons, List.find?_append, ← claims, Option.map_or, own, ih, List.find?_cons]
    by_cases listed : id ∈ info.cgroups
    · simp [listed]
    · simp [listed]

/-- An id belongs to the first entry that has it. -/
theorem resolve_ofListing (infos : List EntityInfo) (id : UInt64) :
    (ofListing infos).resolve id = (infos.find? fun info => id ∈ info.cgroups).map (·.name) := by
  rw [resolve, ofListing, find?_foldl_claim, Table.find?_empty, Option.none_or, find?_claims]

end OwnerIndex

namespace EntityInfo

instance (infos : List EntityInfo) (name : String) (id : UInt64) : Decidable (Lists infos name id) :=
  inferInstanceAs (Decidable (∃ info ∈ infos, info.name = name ∧ id ∈ info.cgroups))

/-- Of the names under which a list has an id, anywhere in it, this one appears first. -/
def FirstUnder (infos : List EntityInfo) (id : UInt64) (name : String) : Prop :=
  ∃ before info after, infos = before ++ info :: after ∧ info.name = name ∧ Lists infos name id ∧
    ∀ earlier ∈ before, ¬ Lists infos earlier.name id

/-- The first entry of a merged list to have an id has the name that appears first among those with the id. -/
theorem find?_merge (infos : List EntityInfo) (id : UInt64) :
    ((merge infos).find? fun info => id ∈ info.cgroups).map (·.name) =
      (infos.find? fun info => Lists infos info.name id).map (·.name) := by
  have has (name : String) : ((unite (named infos name)).any fun info => id ∈ info.cgroups) =
      decide (Lists infos name id) := by
    cases united : unite (named infos name) with
    | none => simp [lists_iff_named, unite_eq_none_iff.1 united]
    | some info => simp [lists_iff_named, mem_cgroups_of_unite united]
  rw [merge_eq, List.find?_filterMap]
  simp only [has]
  rw [find?_eraseDups, names, List.find?_map]
  change ((infos.find? fun info => Lists infos info.name id).map (·.name) >>= fun name =>
    unite (named infos name)).map (·.name) = _
  cases found : infos.find? fun info => Lists infos info.name id with
  | none => rfl
  | some info =>
    have member : info ∈ named infos info.name := mem_named.2 ⟨List.mem_of_find?_eq_some found, rfl⟩
    cases united : unite (named infos info.name) with
    | none => exact absurd (unite_eq_none_iff.1 united) (List.ne_nil_of_mem member)
    | some merged =>
      simp [united, name_of_unite united]

/-- The ids that a list has under some name. -/
theorem mem_flatMap_cgroups {infos : List EntityInfo} {id : UInt64} :
    id ∈ infos.flatMap (·.cgroups) ↔ ∃ info ∈ infos, Lists infos info.name id := by
  rw [List.mem_flatMap]
  constructor
  · rintro ⟨info, member, listed⟩
    exact ⟨info, member, info, member, rfl, listed⟩
  · rintro ⟨_, _, info, member, _, listed⟩
    exact ⟨info, member, listed⟩

end EntityInfo

namespace OwnerIndex

open EntityInfo (Lists FirstUnder merge)

/-- The index gives each id of a list to the name that appears first among those with the id, it knows no
other ids, and its size is the number of distinct ids. -/
structure Follows (index : OwnerIndex) (infos : List EntityInfo) : Prop where
  unowned : ∀ id, index.resolve id = none ↔ ∀ info ∈ infos, id ∉ info.cgroups
  owned : ∀ id name, index.resolve id = some name ↔ FirstUnder infos id name
  size : index.size = (infos.flatMap (·.cgroups)).toFinset.card

theorem resolve_merge (infos : List EntityInfo) (id : UInt64) :
    (ofListing (merge infos)).resolve id =
      (infos.find? fun info => Lists infos info.name id).map (·.name) := by
  rw [resolve_ofListing, EntityInfo.find?_merge]

theorem resolve_merge_eq_none_iff (infos : List EntityInfo) (id : UInt64) :
    (ofListing (merge infos)).resolve id = none ↔ id ∉ infos.flatMap (·.cgroups) := by
  rw [resolve_merge, Option.map_eq_none_iff, List.find?_eq_none, EntityInfo.mem_flatMap_cgroups]
  simp

/-- The index of a merged list follows the list as it was before merging. -/
theorem follows_merge (infos : List EntityInfo) : (ofListing (merge infos)).Follows infos where
  unowned := by
    intro id
    rw [resolve_merge_eq_none_iff, List.mem_flatMap]
    simp
  owned := by
    intro id name
    rw [resolve_merge, Option.map_eq_some_iff]
    constructor
    · rintro ⟨info, found, rfl⟩
      obtain ⟨lists, before, after, split, earlier⟩ := List.find?_eq_some_iff_append.1 found
      exact ⟨before, info, after, split, rfl, by simpa using lists, by simpa using earlier⟩
    · rintro ⟨before, info, after, split, rfl, lists, earlier⟩
      refine ⟨info, List.find?_eq_some_iff_append.2 ⟨by simpa using lists, before, after, split, ?_⟩, rfl⟩
      simpa using earlier
  size := by
    have distinct : (ofListing (merge infos)).owners.keys.Nodup := (ofListing (merge infos)).owners.distinct
    have same : (ofListing (merge infos)).owners.keys.toFinset = (infos.flatMap (·.cgroups)).toFinset := by
      ext id
      have unowned := resolve_merge_eq_none_iff infos id
      rw [resolve, Table.find?_eq_none_iff] at unowned
      rw [List.mem_toFinset, List.mem_toFinset]
      exact not_iff_not.1 unowned
    rw [← same, List.toFinset_card_of_nodup distinct, size, Table.size, Table.keys, List.length_map]

end OwnerIndex

/-! ## Listing the members of a composite -/

namespace Directory

/-- A composite directory all of whose members can be listed merges their listings. -/
theorem list_composite_of_members {scope : String} {members : List Directory}
    {listings : List (List EntityInfo)}
    (answers : List.Forall₂ (fun member infos => member.list scope = .ok infos) members listings) :
    (composite members).list scope = .ok (EntityInfo.merge listings.flatten) := by
  have concatenated : listMembers scope members = .ok listings.flatten := by
    induction answers with
    | nil => rw [listMembers, List.flatten_nil]
    | cons answer _ ih =>
      rw [listMembers, answer]
      dsimp only
      rw [ih, List.flatten_cons]
  rw [list, concatenated]

/-- A composite directory with a member that cannot be listed cannot be listed. -/
theorem list_composite_of_failing {scope : String} {members : List Directory} {member : Directory}
    (among : member ∈ members) {cause : ListingError} (fails : member.list scope = .error cause) :
    ∃ cause, (composite members).list scope = .error cause := by
  have failing : ∃ cause, listMembers scope members = .error cause := by
    induction members with
    | nil => cases among
    | cons first rest ih =>
      rw [listMembers]
      cases answer : list scope first with
      | error cause => exact ⟨_, rfl⟩
      | ok infos =>
        have later : member ∈ rest := by
          refine (List.mem_cons.1 among).resolve_left ?_
          rintro rfl
          rw [answer] at fails
          cases fails
        obtain ⟨cause, failing⟩ := ih later
        exact ⟨cause, by rw [failing]⟩
  obtain ⟨cause, failing⟩ := failing
  exact ⟨cause, by rw [list, failing]⟩

end Directory

/-! ## The index of a monitor -/

namespace Monitor

def index (monitor : Monitor) : OwnerIndex := monitor.pipeline.collector.index

/-- The index after a listing: that of the listing, or the one before if the listing failed. -/
def indexAfter (monitor : Monitor) : Except ListingError (List EntityInfo) → OwnerIndex
  | .ok listed => .ofListing listed
  | .error _ => monitor.index

/-- Events do not change the index. -/
theorem index_work (monitor : Monitor) : monitor.work.index = monitor.index := by
  rw [work]
  split
  · generalize empty : ({ monitor with queue := [] } : Monitor) = current
    have start : current.index = monitor.index := by rw [← empty, index, index]
    clear empty
    induction monitor.queue generalizing current with
    | nil => exact start
    | cons event rest ih => exact ih _ start
  · rfl

theorem index_cycle (monitor : Monitor) (directory : Directory) (clock : Duration) (now : Instant) :
    (monitor.cycle directory clock now).1.index = monitor.indexAfter (directory.list monitor.scope) := by
  cases answer : directory.list monitor.scope with
  | error cause => rw [monitor.cycle_of_error clock now answer]; rfl
  | ok listed => rw [monitor.cycle_of_ok clock now answer]; rfl

theorem index_start {monitor started : Monitor} {directory : Directory}
    (starts : monitor.start directory = .ok started) :
    started.index = monitor.indexAfter (directory.list monitor.scope) := by
  have swept (seeded : Monitor) :
      (if seeded.stopped then seeded else seeded.sweep.work).index = seeded.index := by
    split
    · rfl
    · exact seeded.sweep.index_work
  rw [start] at starts
  split at starts
  · cases starts
  · cases starts
    rw [swept]
    cases directory.list monitor.scope with
    | error cause => rfl
    | ok listed => rfl

/-- Whatever an index was before and whatever entities are merged, the index of the merged listing follows
them as they were: an id belongs to the name that appears first among all names with the id, wherever the id
itself appears; other ids belong to nobody; and there are as many entries as distinct ids. A composite
directory all of whose members can be listed merges their listings one after the other, so a monitor follows
these after a cycle over the directory and after a start with it. Where a member cannot be listed, neither
changes whom any id belongs to. -/
theorem ids_owned_by_first_name (monitor : Monitor) (members : List Directory) (clock : Duration)
    (now : Instant) :
    let directory := Directory.composite members
    let cycled := (monitor.cycle directory clock now).1
    (∀ (found : List EntityInfo) (collector : Collector),
      (collector.refresh (EntityInfo.merge found)).index.Follows found) ∧
    (∀ listings, List.Forall₂ (fun member infos => member.list monitor.scope = .ok infos) members listings →
      directory.list monitor.scope = .ok (EntityInfo.merge listings.flatten) ∧
      cycled.index.Follows listings.flatten ∧
      ∀ started, monitor.start directory = .ok started → started.index.Follows listings.flatten) ∧
    ((∃ member ∈ members, ∃ cause, member.list monitor.scope = .error cause) →
      (∀ id, cycled.index.resolve id = monitor.index.resolve id) ∧
      ∀ started, monitor.start directory = .ok started →
        ∀ id, started.index.resolve id = monitor.index.resolve id) := by
  intro directory cycled
  refine ⟨fun found _ => OwnerIndex.follows_merge found, ?_, ?_⟩
  · intro listings answers
    have listed := Directory.list_composite_of_members answers
    have follows := OwnerIndex.follows_merge listings.flatten
    refine ⟨listed, ?_, ?_⟩
    · unfold cycled directory
      rw [index_cycle, listed]
      exact follows
    · intro started starts
      rw [index_start starts, listed]
      exact follows
  · rintro ⟨member, among, cause, fails⟩
    obtain ⟨cause, failed⟩ := Directory.list_composite_of_failing among fails
    constructor
    · unfold cycled directory
      rw [index_cycle, failed]
      exact fun _ => rfl
    · intro started starts
      rw [index_start starts, failed]
      exact fun _ => rfl

/-- The cache is the first to list id 5, but the web appears before it and lists that id later. A member that
cannot be listed leaves it at that. -/
theorem ids_owned_by_first_name_later_claim :
    let base : Directory := .fixed [⟨"web", "shop", 0⟩, ⟨"db", "shop", 2⟩]
    let more : Directory := .fixed [⟨"cache", "shop", 5⟩, ⟨"web", "shop", 5⟩, ⟨"db", "shop", 2⟩]
    let pods : Directory := .failing "pods" "timed out"
    let cycled := ((Monitor.new {} {}).cycle (.composite [base, more]) ⟨0⟩ ⟨0⟩).1
    let failed := (cycled.cycle (.composite [base, pods]) ⟨0⟩ ⟨0⟩).1
    cycled.index.resolve 5 = some "web" ∧ cycled.index.resolve 7 = none ∧ cycled.index.size = 2 ∧
      failed.index.resolve 5 = some "web" := by
  intro base more pods cycled failed
  obtain ⟨-, refreshes, -⟩ := (Monitor.new {} {}).ids_owned_by_first_name [base, more] ⟨0⟩ ⟨0⟩
  obtain ⟨-, -, fails⟩ := cycled.ids_owned_by_first_name [base, pods] ⟨0⟩ ⟨0⟩
  obtain ⟨-, follows, -⟩ := refreshes _ (.cons rfl (.cons rfl .nil))
  obtain ⟨kept, -⟩ := fails ⟨pods, by simp, _, rfl⟩
  have web : cycled.index.resolve 5 = some "web" :=
    (follows.owned 5 "web").2 ⟨[], _, _, rfl, rfl, by decide, by simp⟩
  exact ⟨web, (follows.unowned 7).2 (by decide), follows.size.trans (by decide), (kept 5).trans web⟩

end Monitor

end StorageTrace
