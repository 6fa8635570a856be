import StorageTrace.Proofs.Directory.Merging

/-! # Composite listings

However its members are nested, a composite directory lists what its leaves list, one after the other,
merged by name.
-/

namespace StorageTrace

namespace Directory

mutual

/-- The directories in a tree that are not composite, depth first. -/
def leaves : Directory → List Directory
  | .fixed entities => [.fixed entities]
  | .cgroup root content namespaceName => [.cgroup root content namespaceName]
  | .failing name text => [.failing name text]
  | .composite members => leavesOf members

def leavesOf : List Directory → List Directory
  | [] => []
  | member :: rest => leaves member ++ leavesOf rest

end

theorem leavesOf_append (members others : List Directory) :
    leavesOf (members ++ others) = leavesOf members ++ leavesOf others := by
  induction members with
  | nil => simp [leavesOf]
  | cons member rest ih => simp [leavesOf, ih]

/-- The leaves that cannot list a scope. -/
inductive Broken (scope : String) : Directory → Prop where
  | failing (name text : String) : Broken scope (.failing name text)
  | unreadable (root : String) (cause : SystemError) (namespaceName : String)
    (within : inScope scope namespaceName) : Broken scope (.cgroup root (.unreadable cause) namespaceName)

/-- The entities that a leaf has in a scope. -/
def held (scope : String) : Directory → List EntityInfo
  | .fixed entities =>
    (entities.filter fun entity => inScope scope entity.namespaceName).map FixedEntity.toInfo
  | .cgroup _ (.tree nodes) namespaceName =>
    if inScope scope namespaceName then CgroupNode.entities namespaceName nodes else []
  | .cgroup _ (.unreadable _) _ => []
  | .failing _ _ => []
  | .composite _ => []

/-- A composite member of some composite in a tree has given way to its own members. -/
inductive Inlined : List Directory → List Directory → Prop where
  | here (before inner after : List Directory) :
    Inlined (before ++ .composite inner :: after) (before ++ inner ++ after)
  | deeper (before : List Directory) {inner inlined : List Directory} (after : List Directory)
    (within : Inlined inner inlined) :
    Inlined (before ++ .composite inner :: after) (before ++ .composite inlined :: after)

theorem Inlined.leavesOf_eq {members inlined : List Directory} (inlining : Inlined members inlined) :
    leavesOf inlined = leavesOf members := by
  induction inlining with
  | here before inner after => simp only [leavesOf_append, leavesOf, leaves, List.append_assoc]
  | deeper before after _ ih => simp only [leavesOf_append, leavesOf, leaves, ih]

/-- An answer that some leaves account for: a failure by a broken leaf, a listing by what they all list,
into whichever listing it may be merged. -/
def AccountedFor (scope : String) (leaves : List Directory) :
    Except ListingError (List EntityInfo) → Prop
  | .error _ => ∃ leaf ∈ leaves, Broken scope leaf
  | .ok infos =>
    (∀ leaf ∈ leaves, ¬ Broken scope leaf ∧ leaf.list scope = .ok (leaf.held scope)) ∧
      ∀ before after, EntityInfo.merge (before ++ infos ++ after) =
        EntityInfo.merge (before ++ leaves.flatMap (held scope) ++ after)

theorem accountedFor_singleton {scope : String} {leaf : Directory} (sound : ¬ Broken scope leaf)
    (lists : leaf.list scope = .ok (leaf.held scope)) :
    AccountedFor scope [leaf] (leaf.list scope) := by
  rw [lists]
  refine ⟨?_, fun before after => ?_⟩
  · rintro other member
    cases List.mem_singleton.1 member
    exact ⟨sound, lists⟩
  · rw [List.flatMap_singleton]

theorem filter_toInfo (scope : String) (entities : List FixedEntity) :
    ((entities.map FixedEntity.toInfo).filter fun info => inScope scope info.namespaceName) =
      (entities.filter fun entity => inScope scope entity.namespaceName).map FixedEntity.toInfo := by
  rw [List.filter_map]
  rfl

mutual

theorem list_accountedFor (scope : String) :
    ∀ directory : Directory, AccountedFor scope directory.leaves (directory.list scope)
  | .fixed entities => by
    refine accountedFor_singleton (by rintro ⟨⟩) ?_
    rw [list, filter_toInfo, held]
  | .cgroup root (.unreadable cause) namespaceName => by
    by_cases within : inScope scope namespaceName
    · rw [list, if_pos within]
      exact ⟨_, List.mem_singleton_self _, .unreadable root cause namespaceName within⟩
    · refine accountedFor_singleton ?_ ?_
      · rintro ⟨⟩
        contradiction
      · rw [list, if_neg within, held]
  | .cgroup root (.tree nodes) namespaceName => by
    refine accountedFor_singleton (by rintro ⟨⟩) ?_
    rw [list, held]
    split <;> rfl
  | .failing name text => ⟨_, List.mem_singleton_self _, .failing name text⟩
  | .composite members => by
    have inner := listMembers_accountedFor scope members
    rw [leaves, list]
    cases answer : listMembers scope members with
    | error cause =>
      rw [answer] at inner
      exact inner
    | ok infos =>
      rw [answer] at inner
      refine ⟨inner.1, fun before after => ?_⟩
      rw [EntityInfo.merge_append_merge, inner.2]

theorem listMembers_accountedFor (scope : String) :
    ∀ members : List Directory, AccountedFor scope (leavesOf members) (listMembers scope members)
  | [] => ⟨by simp [leavesOf], fun _ _ => rfl⟩
  | member :: rest => by
    have first := list_accountedFor scope member
    have later := listMembers_accountedFor scope rest
    rw [leavesOf, listMembers]
    cases answer : list scope member with
    | error cause =>
      rw [answer] at first
      obtain ⟨leaf, among, broken⟩ := first
      exact ⟨leaf, List.mem_append_left _ among, broken⟩
    | ok infos =>
      rw [answer] at first
      cases answers : listMembers scope rest with
      | error cause =>
        rw [answers] at later
        obtain ⟨leaf, among, broken⟩ := later
        exact ⟨leaf, List.mem_append_right _ among, broken⟩
      | ok others =>
        rw [answers] at later
        refine ⟨List.forall_mem_append.2 ⟨first.1, later.1⟩, fun before after => ?_⟩
        calc EntityInfo.merge (before ++ (infos ++ others) ++ after)
            = EntityInfo.merge (before ++ infos ++ (others ++ after)) := by
              simp only [List.append_assoc]
          _ = EntityInfo.merge (before ++ (leaves member).flatMap (held scope) ++ others ++ after) := by
              rw [first.2, List.append_assoc _ others]
          _ = _ := by
              rw [later.2, List.flatMap_append, List.append_assoc before]

end

theorem inScope_of_mem_held {scope : String} {leaf : Directory} {info : EntityInfo}
    (member : info ∈ leaf.held scope) : inScope scope info.namespaceName := by
  cases leaf with
  | fixed entities =>
    obtain ⟨entity, kept, rfl⟩ := List.mem_map.1 member
    exact (List.mem_filter.1 kept).2
  | cgroup root content namespaceName =>
    cases content with
    | unreadable cause => cases member
    | tree nodes =>
      rw [held] at member
      split at member
      · obtain ⟨pod, -, rfl⟩ := List.mem_map.1 member
        assumption
      · cases member
  | failing name text => cases member
  | composite members => cases member

/-- The listing of a composite directory, or its failure, read off the leaves. -/
theorem list_composite (scope : String) (members : List Directory) :
    match (composite members).list scope with
    | .error _ => ∃ leaf ∈ leavesOf members, Broken scope leaf
    | .ok infos =>
      (∀ leaf ∈ leavesOf members, ¬ Broken scope leaf ∧ leaf.list scope = .ok (leaf.held scope)) ∧
        infos = EntityInfo.merge ((leavesOf members).flatMap (held scope)) := by
  have account := listMembers_accountedFor scope members
  rw [list]
  cases answer : listMembers scope members with
  | error cause =>
    rw [answer] at account
    exact account
  | ok infos =>
    rw [answer] at account
    refine ⟨account.1, ?_⟩
    have merged := account.2 [] []
    simpa only [List.nil_append, List.append_nil] using merged

theorem list_composite_fails_iff (scope : String) (members : List Directory) :
    (∃ cause, (composite members).list scope = .error cause) ↔
      ∃ leaf ∈ leavesOf members, Broken scope leaf := by
  have account := list_composite scope members
  cases answer : (composite members).list scope with
  | error cause =>
    rw [answer] at account
    exact ⟨fun _ => account, fun _ => ⟨cause, rfl⟩⟩
  | ok infos =>
    rw [answer] at account
    refine ⟨nofun, ?_⟩
    rintro ⟨leaf, among, broken⟩
    exact absurd broken (account.1 leaf among).1

/-- What a composite directory lists depends on its leaves and their order alone. -/
theorem list_composite_congr (scope : String) {members others : List Directory}
    (same : leavesOf members = leavesOf others) :
    ((composite members).list scope).toOption = ((composite others).list scope).toOption := by
  have account := list_composite scope members
  have other := list_composite scope others
  rw [same] at account
  cases answer : (composite members).list scope with
  | error cause =>
    rw [answer] at account
    obtain ⟨_, failing⟩ := (list_composite_fails_iff scope others).2 account
    rw [failing]
    rfl
  | ok infos =>
    cases answers : (composite others).list scope with
    | error cause =>
      rw [answer] at account
      rw [answers] at other
      obtain ⟨leaf, among, broken⟩ := other
      exact absurd broken (account.1 leaf among).1
    | ok listed =>
      rw [answer] at account
      rw [answers] at other
      rw [account.2, other.2]

/-- A composite directory fails in a scope exactly if some leaf of its tree cannot be listed. Otherwise
its listing is that of the leaves, depth first: each name once, where it first appears, with the
namespace and the ids of its first appearance, followed by the ids that only later ones have. So names
are distinct, ids stay under their names, a scope that is not empty takes in its own namespace only, and
putting the members of a composite member in its place changes neither whether there is a listing nor
what it says. -/
theorem listing_merges_leaves (scope : String) (members : List Directory) :
    ((∃ cause, (composite members).list scope = .error cause) ↔
        ∃ leaf ∈ leavesOf members, Broken scope leaf) ∧
      (∀ infos, (composite members).list scope = .ok infos →
        let found := (leavesOf members).flatMap (held scope)
        (∀ leaf ∈ leavesOf members, leaf.list scope = .ok (leaf.held scope)) ∧
          (infos = (EntityInfo.names found).eraseDups.filterMap fun name =>
            EntityInfo.unite (EntityInfo.named found name)) ∧
          (EntityInfo.names infos).Nodup ∧
          (∀ name id, EntityInfo.Lists infos name id ↔ EntityInfo.Lists found name id) ∧
          (scope ≠ "" → ∀ info ∈ infos, info.namespaceName = scope)) ∧
      ∀ inlined, Inlined members inlined →
        ((composite inlined).list scope).toOption = ((composite members).list scope).toOption := by
  refine ⟨list_composite_fails_iff scope members, ?_, ?_⟩
  · intro infos answer found
    have account := list_composite scope members
    rw [answer] at account
    obtain ⟨sound, rfl⟩ := account
    refine ⟨fun leaf among => (sound leaf among).2, EntityInfo.merge_eq found, ?_,
      EntityInfo.lists_merge_iff found, ?_⟩
    · rw [EntityInfo.names_merge]
      exact nodup_eraseDups _
    · intro narrow info member
      obtain ⟨first, among, -, same⟩ := EntityInfo.namespace_of_mem_merge member
      obtain ⟨leaf, -, holds⟩ := List.mem_flatMap.1 among
      have within : scope = "" ∨ scope = first.namespaceName := by
        simpa [inScope] using inScope_of_mem_held holds
      rw [same, within.resolve_left narrow]
  · intro inlined inlining
    exact list_composite_congr scope inlining.leavesOf_eq

/-- Names and ids recur across two levels, and an entity of another namespace is left out. -/
theorem listing_merges_leaves_shop :
    let base : Directory := .fixed [⟨"api", "shop", 1⟩, ⟨"db", "shop", 2⟩]
    let replica : Directory := .fixed [⟨"db", "shop", 3⟩]
    let inner : List Directory :=
      [.fixed [⟨"api", "lab", 9⟩, ⟨"api", "shop", 4⟩, ⟨"cache", "shop", 5⟩, ⟨"db", "shop", 2⟩]]
    let members : List Directory := [base, .composite [replica, .composite inner]]
    let inlined : List Directory := [base, .composite (replica :: inner)]
    let infos : List EntityInfo :=
      [⟨"api", "shop", [1, 4]⟩, ⟨"db", "shop", [2, 3]⟩, ⟨"cache", "shop", [5]⟩]
    (composite members).list "shop" = .ok infos ∧
      (EntityInfo.names infos).Nodup ∧
      (∀ info ∈ infos, info.namespaceName = "shop") ∧
      ((composite inlined).list "shop").toOption = some infos ∧
      ∃ cause, (composite (.failing "pods" "timed out" :: members)).list "shop" = .error cause := by
  intro base replica inner members inlined infos
  obtain ⟨-, lists, inlines⟩ := listing_merges_leaves "shop" members
  have answer : (composite members).list "shop" = .ok infos := rfl
  obtain ⟨-, -, distinct, -, scope⟩ := lists infos answer
  have same := inlines inlined (.deeper [base] [] (.here [replica] inner []))
  rw [answer] at same
  refine ⟨answer, distinct, scope (by decide), same, ?_⟩
  refine (listing_merges_leaves "shop" _).1.2 ⟨.failing "pods" "timed out", ?_, .failing _ _⟩
  rw [leavesOf, leaves]
  exact List.mem_cons_self ..

end Directory

end StorageTrace
