import StorageTrace.Directory
import StorageTrace.Proofs.Names.FirstAppearance

/-! # Listings merged by name

What merging makes of a list of entities, name by name: the entities of a name unite into one, which
stands where the name first appears. Part of a list may be merged ahead of the rest.
-/

namespace StorageTrace

namespace EntityInfo

/-- The ids of a list that are not known, each once, in order of first appearance. -/
def unseen (known ids : List UInt64) : List UInt64 := (ids.filter fun id => id ∉ known).eraseDups

theorem mem_unseen {known ids : List UInt64} {id : UInt64} :
    id ∈ unseen known ids ↔ id ∈ ids ∧ id ∉ known := by
  rw [unseen, List.mem_eraseDups, List.mem_filter, decide_eq_true_eq]

/-- What a list has unseen depends on the first appearances in it alone. -/
theorem unseen_congr {ids others : List UInt64} (same : ids.eraseDups = others.eraseDups)
    (known : List UInt64) : unseen known ids = unseen known others := by
  rw [unseen, unseen, eraseDups_filter, eraseDups_filter, same]

theorem eraseDups_append_unseen (known ids : List UInt64) :
    (known ++ unseen known ids).eraseDups = (known ++ ids).eraseDups := by
  have fresh : (unseen known ids).removeAll known = unseen known ids := by
    refine List.filter_eq_self.2 fun id member => ?_
    simpa using (mem_unseen.1 member).2
  have distinct : (unseen known ids).Nodup := nodup_eraseDups _
  rw [List.eraseDups_append, List.eraseDups_append, fresh,
    eraseDups_of_nodup distinct, List.removeAll]
  simp [unseen]

theorem unseen_concat (known ids : List UInt64) (id : UInt64) :
    unseen known (ids ++ [id]) =
      if id ∈ known ∨ id ∈ ids then unseen known ids else unseen known ids ++ [id] := by
  rw [unseen, unseen, List.filter_append, List.filter_singleton]
  by_cases old : id ∈ known
  · simp [old]
  · rw [decide_eq_true old, cond_true, eraseDups_concat]
    simp [List.mem_filter, old]

/-- Adding ids one after the other, each only if it is new, appends the unseen ones. -/
theorem addIds_eq (known ids : List UInt64) : addIds known ids = known ++ unseen known ids := by
  induction ids using List.reverseRecOn with
  | nil => simp [addIds, unseen]
  | append_singleton ids id ih =>
    have step : addIds known (ids ++ [id]) =
        if (addIds known ids).contains id then addIds known ids else addIds known ids ++ [id] := by
      rw [addIds, List.foldl_append, List.foldl_cons, List.foldl_nil, ← addIds]
    have held : (addIds known ids).contains id ↔ id ∈ known ∨ id ∈ ids := by
      rw [ih, List.contains_iff_mem, List.mem_append, mem_unseen]
      tauto
    rw [step, unseen_concat]
    by_cases old : id ∈ known ∨ id ∈ ids
    · rw [if_pos (held.2 old), if_pos old, ih]
    · rw [if_neg (mt held.1 old), if_neg old, ih, List.append_assoc]

/-! ## The entities of a name -/

def names (infos : List EntityInfo) : List String := infos.map (·.name)

theorem names_concat (infos : List EntityInfo) (info : EntityInfo) :
    names (infos ++ [info]) = names infos ++ [info.name] := by
  simp [names]

/-- The entities of a list that have a name. -/
def named (infos : List EntityInfo) (name : String) : List EntityInfo :=
  infos.filter fun info => info.name = name

theorem mem_named {infos : List EntityInfo} {name : String} {info : EntityInfo} :
    info ∈ named infos name ↔ info ∈ infos ∧ info.name = name := by
  rw [named, List.mem_filter, decide_eq_true_eq]

theorem named_append (infos others : List EntityInfo) (name : String) :
    named (infos ++ others) name = named infos name ++ named others name :=
  List.filter_append ..

theorem named_singleton (info : EntityInfo) (name : String) :
    named [info] name = if info.name = name then [info] else [] := by
  rw [named, List.filter_singleton]
  by_cases same : info.name = name <;> simp [same]

theorem named_eq_nil_iff {infos : List EntityInfo} {name : String} :
    named infos name = [] ↔ name ∉ names infos := by
  rw [named, List.filter_eq_nil_iff]
  simp [names]

/-- Several entities as one: the first of them, followed by the ids that only later ones have. -/
def unite : List EntityInfo → Option EntityInfo
  | [] => none
  | first :: later =>
    some { first with cgroups := first.cgroups ++ unseen first.cgroups (later.flatMap (·.cgroups)) }

@[simp] theorem unite_singleton (info : EntityInfo) : unite [info] = some info := by
  simp [unite, unseen]

/-- One entity more only passes its ids on to those before it. -/
theorem unite_concat {group : List EntityInfo} (nonempty : group ≠ []) (info : EntityInfo) :
    unite (group ++ [info]) =
      (unite group).map fun known => { known with cgroups := addIds known.cgroups info.cgroups } := by
  cases group with
  | nil => contradiction
  | cons first later =>
    simp only [List.cons_append, unite, Option.map_some, ← addIds_eq, List.flatMap_append,
      List.flatMap_singleton]
    rw [addIds, List.foldl_append, ← addIds, ← addIds]

/-- A part of a group may be united ahead of the rest. -/
theorem unite_append_unite (before group after : List EntityInfo) :
    unite (before ++ (unite group).toList ++ after) = unite (before ++ group ++ after) := by
  cases group with
  | nil => rfl
  | cons first later =>
    -- With nothing before it the group gives the first entity; otherwise only its ids matter.
    cases before with
    | nil =>
      simp only [unite, Option.toList_some, List.nil_append, List.cons_append, ← addIds_eq,
        List.flatMap_append]
      rw [addIds, addIds, addIds, List.foldl_append]
    | cons earliest before =>
      have same : ((unite (first :: later)).toList.flatMap (·.cgroups)).eraseDups =
          ((first :: later).flatMap (·.cgroups)).eraseDups := by
        simp only [unite, Option.toList_some, List.flatMap_cons, List.flatMap_nil, List.append_nil]
        rw [eraseDups_append_unseen]
      have seen := unseen_congr (eraseDups_append_congr same (before.flatMap (·.cgroups))
        (after.flatMap (·.cgroups))) earliest.cgroups
      generalize (unite (first :: later)).toList = united at seen
      simp only [List.cons_append, unite, List.flatMap_append, seen]

theorem unite_eq_none_iff {group : List EntityInfo} : unite group = none ↔ group = [] := by
  cases group <;> simp [unite]

/-- What is united is the first entity of the group but for its ids. -/
theorem head_of_unite {group : List EntityInfo} {info : EntityInfo} (united : unite group = some info) :
    ∃ first ∈ group, info.name = first.name ∧ info.namespaceName = first.namespaceName := by
  cases group with
  | nil => cases united
  | cons first later =>
    cases united
    exact ⟨first, List.mem_cons_self .., rfl, rfl⟩

theorem name_of_unite {infos : List EntityInfo} {name : String} {info : EntityInfo}
    (united : unite (named infos name) = some info) : info.name = name := by
  obtain ⟨first, member, same, _⟩ := head_of_unite united
  rw [same, (mem_named.1 member).2]

/-- No id is lost and none is added. -/
theorem mem_cgroups_of_unite {group : List EntityInfo} {info : EntityInfo}
    (united : unite group = some info) (id : UInt64) :
    id ∈ info.cgroups ↔ ∃ other ∈ group, id ∈ other.cgroups := by
  cases group with
  | nil => cases united
  | cons first later =>
    cases united
    by_cases old : id ∈ first.cgroups <;> simp [mem_unseen, old]

/-! ## Merging -/

theorem merge_concat (infos : List EntityInfo) (info : EntityInfo) :
    merge (infos ++ [info]) = mergeInto (merge infos) info := by
  rw [merge, List.foldl_append, List.foldl_cons, List.foldl_nil, ← merge]

theorem any_name_iff {listed : List EntityInfo} {name : String} :
    (listed.any fun known => known.name = name) = true ↔ name ∈ names listed := by
  simp [names]

theorem mergeInto_of_listed {listed : List EntityInfo} {info : EntityInfo}
    (held : info.name ∈ names listed) :
    mergeInto listed info = listed.map fun known =>
      if known.name = info.name then { known with cgroups := addIds known.cgroups info.cgroups }
      else known := by
  rw [mergeInto, if_pos (any_name_iff.2 held)]

theorem mergeInto_of_new {listed : List EntityInfo} {info : EntityInfo}
    (new : info.name ∉ names listed) : mergeInto listed info = listed ++ [info] := by
  rw [mergeInto, if_neg (mt any_name_iff.1 new)]

theorem names_mergeInto (listed : List EntityInfo) (info : EntityInfo) :
    names (mergeInto listed info) =
      if info.name ∈ names listed then names listed else names listed ++ [info.name] := by
  by_cases held : info.name ∈ names listed
  · rw [mergeInto_of_listed held, if_pos held, names, names, List.map_map]
    refine List.map_congr_left fun known _ => ?_
    simp only [Function.comp_apply]
    split <;> rfl
  · rw [mergeInto_of_new held, if_neg held, names_concat]

theorem names_merge (infos : List EntityInfo) : names (merge infos) = (names infos).eraseDups := by
  induction infos using List.reverseRecOn with
  | nil => rfl
  | append_singleton infos info ih =>
    rw [merge_concat, names_mergeInto, ih, names_concat, eraseDups_concat]
    simp only [List.mem_eraseDups]

/-- The listing of several entities: each name where it first appears, with its entities united. -/
theorem merge_eq (infos : List EntityInfo) :
    merge infos = (names infos).eraseDups.filterMap fun name => unite (named infos name) := by
  induction infos using List.reverseRecOn with
  | nil => rfl
  | append_singleton infos info ih =>
    have apart {name : String} (other : info.name ≠ name) :
        named (infos ++ [info]) name = named infos name := by
      rw [named_append, named_singleton, if_neg other, List.append_nil]
    have own : named (infos ++ [info]) info.name = named infos info.name ++ [info] := by
      rw [named_append, named_singleton, if_pos rfl]
    have held_iff : info.name ∈ names (merge infos) ↔ info.name ∈ names infos := by
      rw [names_merge, List.mem_eraseDups]
    rw [merge_concat, names_concat, eraseDups_concat]
    by_cases held : info.name ∈ names infos
    · rw [mergeInto_of_listed (held_iff.2 held), if_pos held, ih, List.map_filterMap]
      refine List.filterMap_congr fun name _ => ?_
      by_cases same : info.name = name
      · subst same
        rw [own, unite_concat (mt named_eq_nil_iff.1 (not_not.2 held))]
        refine Option.map_congr fun known united => ?_
        rw [if_pos (name_of_unite united)]
      · rw [apart same]
        cases united : unite (named infos name) with
        | none => rfl
        | some known =>
          rw [Option.map_some, if_neg fun own => same (own.symm.trans (name_of_unite united))]
    · rw [mergeInto_of_new (mt held_iff.1 held), if_neg held, ih, List.filterMap_append]
      congr 1
      · refine List.filterMap_congr fun name member => ?_
        rw [apart fun same => held (same ▸ List.mem_eraseDups.1 member)]
      · simp [own, named_eq_nil_iff.2 held]

/-- Merging leaves the entities of each name as one. -/
theorem named_merge (infos : List EntityInfo) (name : String) :
    named (merge infos) name = (unite (named infos name)).toList := by
  rw [merge_eq, named, filter_filterMap_key (fun _ _ => name_of_unite) (nodup_eraseDups _)]
  split
  · rfl
  · rename_i absent
    rw [List.mem_eraseDups] at absent
    rw [named_eq_nil_iff.2 absent]
    rfl

/-- A part of a list may be merged ahead of the rest. -/
theorem merge_append_merge (before infos after : List EntityInfo) :
    merge (before ++ merge infos ++ after) = merge (before ++ infos ++ after) := by
  have sameNames : (names (before ++ merge infos ++ after)).eraseDups =
      (names (before ++ infos ++ after)).eraseDups := by
    have same : (names (merge infos)).eraseDups = (names infos).eraseDups := by
      rw [names_merge, eraseDups_of_nodup (nodup_eraseDups _)]
    simpa only [names, List.map_append] using
      eraseDups_append_congr same (names before) (names after)
  rw [merge_eq (before ++ merge infos ++ after), merge_eq (before ++ infos ++ after), sameNames]
  refine List.filterMap_congr fun name _ => ?_
  simp only [named_append, named_merge, unite_append_unite]

/-- Whether a list has an id under a name. -/
def Lists (infos : List EntityInfo) (name : String) (id : UInt64) : Prop :=
  ∃ info ∈ infos, info.name = name ∧ id ∈ info.cgroups

theorem lists_iff_named {infos : List EntityInfo} {name : String} {id : UInt64} :
    Lists infos name id ↔ ∃ info ∈ named infos name, id ∈ info.cgroups := by
  simp only [Lists, mem_named, and_assoc]

/-- Merging keeps the ids of each name. -/
theorem lists_merge_iff (infos : List EntityInfo) (name : String) (id : UInt64) :
    Lists (merge infos) name id ↔ Lists infos name id := by
  rw [lists_iff_named, lists_iff_named, named_merge]
  cases united : unite (named infos name) with
  | none => simp [unite_eq_none_iff.1 united]
  | some info => simp [← mem_cgroups_of_unite united]

/-- Merging makes up no namespace. -/
theorem namespace_of_mem_merge {infos : List EntityInfo} {info : EntityInfo}
    (member : info ∈ merge infos) :
    ∃ first ∈ infos, info.name = first.name ∧ info.namespaceName = first.namespaceName := by
  rw [merge_eq] at member
  obtain ⟨name, -, united⟩ := List.mem_filterMap.1 member
  obtain ⟨first, among, same⟩ := head_of_unite united
  exact ⟨first, (mem_named.1 among).1, same⟩

end EntityInfo

end StorageTrace
