import Mathlib.Data.List.Forall2
import StorageTrace.Proofs.Directory.Merging
import StorageTrace.Proofs.Names.ByteOrder

/-! # What a scan of the cgroup tree finds

A directory belongs to the pod that the first component of its path to name one names, if there is any
and the directory is not too deep. The scan passes the owner down and collects the ids of all pods in one
table; what it collects for a pod are the ids of the directories that belong to it, each once, in whatever
order the directories are read.
-/

namespace StorageTrace

namespace CgroupNode

/-- A directory with a path and an id below some entries. -/
inductive At : List CgroupNode → List String → UInt64 → Prop where
  | here {nodes children : List CgroupNode} {name : String} {id : UInt64}
    (member : .directory name id children ∈ nodes) : At nodes [name] id
  | under {nodes children : List CgroupNode} {name : String} {id found : UInt64} {path : List String}
    (member : .directory name id children ∈ nodes) (inside : At children path found) :
    At nodes (name :: path) found

mutual

/-- The ids of an entry and of all directories below it. -/
def idsOf : CgroupNode → List UInt64
  | .file _ => []
  | .directory _ id children => id :: ids children

/-- The ids of all directories among some entries and below them. -/
def ids : List CgroupNode → List UInt64
  | [] => []
  | node :: rest => idsOf node ++ ids rest

end

/-- The directories that belong to a pod, as the scan comes to them. -/
def found (above : Option String) : Nat → List CgroupNode → List (String × UInt64)
  | 0, _ => []
  | levels + 1, nodes =>
    nodes.flatMap fun node =>
      match node with
      | .file _ => []
      | .directory name id children =>
        let owner := above.or (PodUid.ofName? name)
        (owner.map fun pod => (pod, id)).toList ++ found owner levels children

/-! ## The table of pods -/

/-- Adds one finding to the table. -/
def note (pods : Table String (List UInt64)) (finding : String × UInt64) : Table String (List UInt64) :=
  record pods finding.1 finding.2

/-- The scan enters what it finds into the table, in the order in which it comes to it. -/
theorem scan_eq (above : Option String) (levels : Nat) (nodes : List CgroupNode)
    (pods : Table String (List UInt64)) :
    scan above levels nodes pods = (found above levels nodes).foldl note pods := by
  -- the levels give the children, the inner induction the siblings; the table goes through both
  induction levels generalizing above nodes pods with
  | zero => rfl
  | succ levels deeper =>
    unfold scan found
    induction nodes generalizing pods with
    | nil => rfl
    | cons node rest ih =>
      rw [List.foldl_cons, List.flatMap_cons, List.foldl_append, ih]
      cases node with
      | file name => rfl
      | directory name id children =>
        dsimp only
        rw [deeper, List.foldl_append]
        cases above.or (PodUid.ofName? name) <;> rfl

/-- The ids that some findings have for a pod. -/
def idsFor (findings : List (String × UInt64)) (pod : String) : List UInt64 :=
  (findings.filter fun finding => finding.1 = pod).map Prod.snd

/-- The table holds for each pod the ids found for it, behind those that it held before. -/
theorem getD_foldl_note (findings : List (String × UInt64)) (pods : Table String (List UInt64))
    (pod : String) :
    ((findings.foldl note pods).find? pod).getD [] =
      (pods.find? pod).getD [] ++ idsFor findings pod := by
  induction findings generalizing pods with
  | nil => exact (List.append_nil _).symm
  | cons finding rest ih =>
    rw [List.foldl_cons, ih, note, record, Table.find?_insert, idsFor, idsFor, List.filter_cons]
    by_cases own : pod = finding.1
    · simp [own]
    · simp [own, Ne.symm own]

/-- The table has the pods of the findings beside those that it had before. -/
theorem mem_keys_foldl_note (findings : List (String × UInt64)) (pods : Table String (List UInt64))
    (pod : String) :
    pod ∈ (findings.foldl note pods).keys ↔ pod ∈ pods.keys ∨ pod ∈ findings.map Prod.fst := by
  induction findings generalizing pods with
  | nil => simp
  | cons finding rest ih =>
    have first : pod ∈ (note pods finding).keys ↔ pod ∈ pods.keys ∨ pod = finding.1 := by
      rw [Table.mem_keys_iff, Table.mem_keys_iff, note, record, Table.find?_insert]
      by_cases own : pod = finding.1 <;> simp [own]
    rw [List.foldl_cons, ih, first, List.map_cons, List.mem_cons, or_assoc]

/-- The listing has the pods found in ascending order, each with the ids found for it. -/
theorem entities_eq (namespaceName : String) (roots : List CgroupNode) :
    let findings := found none maxLevels roots
    entities namespaceName roots = (Names.ascending (findings.map Prod.fst)).map fun pod =>
      { name := pod, namespaceName, cgroups := idsFor findings pod } := by
  intro findings
  have names : (scan none maxLevels roots Table.empty).sorted.map Prod.fst =
      Names.ascending (findings.map Prod.fst) := by
    rw [Table.names_sorted, scan_eq]
    refine Names.ascending_congr fun pod => ?_
    rw [mem_keys_foldl_note]
    exact or_iff_right List.not_mem_nil
  rw [entities, ← names, List.map_map]
  refine List.map_congr_left fun entry member => ?_
  have stored := (Table.find?_eq_some_iff _ entry.1 entry.2).2 (List.mem_mergeSort.1 member)
  have collected := getD_foldl_note findings Table.empty entry.1
  rw [← scan_eq, stored] at collected
  rw [Function.comp_apply, ← show entry.2 = idsFor findings entry.1 from collected]

/-! ## Who owns a directory -/

theorem findSome?_cons_eq_or (name : String) (path : List String) :
    (name :: path).findSome? PodUid.ofName? =
      (PodUid.ofName? name).or (path.findSome? PodUid.ofName?) := by
  rw [List.findSome?_cons]
  cases PodUid.ofName? name <;> rfl

/-- The scan comes to the directories that are not too deep, and gives each to the owner that is passed
down, or else to the first pod that its path names. -/
theorem mem_found_iff (above : Option String) (levels : Nat) (nodes : List CgroupNode) (pod : String)
    (id : UInt64) :
    (pod, id) ∈ found above levels nodes ↔
      ∃ path, At nodes path id ∧ path.length ≤ levels ∧
        above.or (path.findSome? PodUid.ofName?) = some pod := by
  induction levels generalizing above nodes with
  | zero =>
    refine iff_of_false (by simp [found]) ?_
    rintro ⟨path, there, short, -⟩
    cases there <;> simp at short
  | succ levels deeper =>
    unfold found
    rw [List.mem_flatMap]
    constructor
    · rintro ⟨node, member, inside⟩
      cases node with
      | file name => simp at inside
      | directory name here children =>
        rcases List.mem_append.1 inside with own | below
        · obtain ⟨owned, rfl⟩ : above.or (PodUid.ofName? name) = some pod ∧ here = id := by
            simpa using own
          exact ⟨[name], .here member, by simp, by simpa [findSome?_cons_eq_or] using owned⟩
        · obtain ⟨path, there, short, owned⟩ := (deeper _ _).1 below
          refine ⟨name :: path, .under member there, by simpa using short, ?_⟩
          -- the owner passed down is the one above or this directory, so the outermost pod wins
          rw [findSome?_cons_eq_or, ← Option.or_assoc]
          exact owned
    · rintro ⟨path, there, short, owned⟩
      cases there with
      | here member =>
        refine ⟨_, member, List.mem_append_left _ ?_⟩
        simpa [findSome?_cons_eq_or] using owned
      | under member there =>
        refine ⟨_, member, List.mem_append_right _ ((deeper _ _).2 ⟨_, there, by simpa using short, ?_⟩)⟩
        rw [findSome?_cons_eq_or, ← Option.or_assoc] at owned
        exact owned

/-- The scan comes to no directory twice. -/
theorem sublist_ids (above : Option String) (levels : Nat) (nodes : List CgroupNode) :
    ((found above levels nodes).map Prod.snd).Sublist (ids nodes) := by
  induction levels generalizing above nodes with
  | zero => exact List.nil_sublist _
  | succ levels deeper =>
    unfold found
    induction nodes with
    | nil => exact List.Sublist.refl _
    | cons node rest ih =>
      rw [List.flatMap_cons, List.map_append, ids]
      refine List.Sublist.append ?_ ih
      cases node with
      | file name => exact List.nil_sublist _
      | directory name id children =>
        dsimp only
        generalize above.or (PodUid.ofName? name) = owner
        have inside := deeper owner children
        rw [List.map_append, idsOf]
        cases owner with
        | none => exact inside.cons id
        | some pod => exact inside.cons_cons id

/-! ## The listing -/

theorem mem_idsFor {findings : List (String × UInt64)} {pod : String} {id : UInt64} :
    id ∈ idsFor findings pod ↔ (pod, id) ∈ findings := by
  rw [idsFor, List.mem_map]
  constructor
  · rintro ⟨⟨name, found⟩, member, rfl⟩
    obtain ⟨inside, rfl⟩ : (name, found) ∈ findings ∧ name = pod := by simpa using member
    exact inside
  · intro member
    exact ⟨(pod, id), by simpa using member, rfl⟩

/-- The listing has an id for a pod if and only if the scan has found it there. -/
theorem mem_entities_iff (namespaceName : String) (roots : List CgroupNode) (pod : String) (id : UInt64) :
    EntityInfo.Lists (entities namespaceName roots) pod id ↔
      (pod, id) ∈ found none maxLevels roots := by
  rw [entities_eq]
  constructor
  · rintro ⟨info, member, rfl, inside⟩
    obtain ⟨pod, _, rfl⟩ := List.mem_map.1 member
    exact mem_idsFor.1 inside
  · intro found
    refine ⟨_, List.mem_map_of_mem (Names.mem_ascending.2 (List.mem_map_of_mem found)), rfl, ?_⟩
    exact mem_idsFor.2 found

section Listing

variable {roots : List CgroupNode} (distinct : (ids roots).Nodup)

include distinct

theorem nodup_findings : ((found none maxLevels roots).map Prod.snd).Nodup :=
  (sublist_ids none maxLevels roots).nodup distinct

theorem nodup_idsFor (pod : String) : (idsFor (found none maxLevels roots) pod).Nodup :=
  (List.Sublist.map _ List.filter_sublist).nodup (nodup_findings distinct)

/-- No directory belongs to two pods. -/
theorem disjoint_idsFor {pod other : String} (differ : pod ≠ other) :
    List.Disjoint (idsFor (found none maxLevels roots) pod) (idsFor (found none maxLevels roots) other) := by
  intro id left right
  have same := List.inj_on_of_nodup_map (nodup_findings distinct) (mem_idsFor.1 left)
    (mem_idsFor.1 right) rfl
  exact differ (congrArg Prod.fst same)

/-- All ids of the listing are of different directories. -/
theorem nodup_entities (namespaceName : String) :
    ((entities namespaceName roots).flatMap (·.cgroups)).Nodup := by
  rw [entities_eq, List.flatMap_map, List.nodup_flatMap]
  refine ⟨fun pod _ => nodup_idsFor distinct pod, ?_⟩
  exact (Names.nodup_ascending _).imp fun differ => disjoint_idsFor distinct differ

end Listing

/-- Trees with the same directories, in whatever order they are read. -/
def SameDirectories (left right : List CgroupNode) : Prop :=
  ∀ path id, At left path id ↔ At right path id

/-- Entities alike but for the order of their ids. -/
def Alike (left right : EntityInfo) : Prop :=
  left.name = right.name ∧ left.namespaceName = right.namespaceName ∧ left.cgroups.Perm right.cgroups

/-- The order in which directories are read does not show but in the order of the ids. -/
theorem entities_alike {left right : List CgroupNode} (same : SameDirectories left right)
    (distinctLeft : (ids left).Nodup) (distinctRight : (ids right).Nodup) (namespaceName : String) :
    List.Forall₂ Alike (entities namespaceName left) (entities namespaceName right) := by
  have findings (pod : String) (id : UInt64) :
      (pod, id) ∈ found none maxLevels left ↔ (pod, id) ∈ found none maxLevels right := by
    rw [mem_found_iff, mem_found_iff]
    simp only [same _ _]
  have names : Names.ascending ((found none maxLevels left).map Prod.fst) =
      Names.ascending ((found none maxLevels right).map Prod.fst) := by
    refine Names.ascending_congr fun pod => ?_
    simp only [List.mem_map, Prod.exists, findings]
  rw [entities_eq, entities_eq, names, List.forall₂_map_left_iff, List.forall₂_map_right_iff,
    List.forall₂_same]
  intro pod _
  refine ⟨rfl, rfl, (List.perm_ext_iff_of_nodup ?_ ?_).2 fun id => ?_⟩
  · exact nodup_idsFor distinctLeft pod
  · exact nodup_idsFor distinctRight pod
  · rw [mem_idsFor, mem_idsFor, findings]

end CgroupNode

namespace Directory

/-- A scan in scope of a tree whose directories have ids of their own succeeds. It lists pods in strictly
ascending order of the bytes of their uids, with the namespace of the scan and at least one id each, and
no id twice. A pod has the id of a directory if and only if that is at most nine levels deep and the pod
is the first that its path names. Another order of reading changes nothing but the order of ids. -/
theorem cgroup_lists_pod_subtrees (scope root namespaceName : String) (nodes : List CgroupNode)
    (within : inScope scope namespaceName = true) (distinct : (CgroupNode.ids nodes).Nodup) :
    ∃ infos, list scope (.cgroup root (.tree nodes) namespaceName) = .ok infos ∧
      infos.Pairwise (fun left right => Names.bytes left.name < Names.bytes right.name) ∧
      (∀ info ∈ infos, info.namespaceName = namespaceName ∧ info.cgroups ≠ []) ∧
      (infos.flatMap (·.cgroups)).Nodup ∧
      (∀ pod id, EntityInfo.Lists infos pod id ↔
        ∃ path, CgroupNode.At nodes path id ∧ path.length ≤ 9 ∧
          path.findSome? PodUid.ofName? = some pod) ∧
      ∀ others, CgroupNode.SameDirectories nodes others → (CgroupNode.ids others).Nodup →
        ∃ infos', list scope (.cgroup root (.tree others) namespaceName) = .ok infos' ∧
          List.Forall₂ CgroupNode.Alike infos infos' := by
  have listed (tree : List CgroupNode) : list scope (.cgroup root (.tree tree) namespaceName) =
      .ok (CgroupNode.entities namespaceName tree) := by
    rw [list, if_pos within]
  refine ⟨_, listed nodes, ?_, ?_, CgroupNode.nodup_entities distinct namespaceName, ?_, ?_⟩
  · rw [CgroupNode.entities_eq, List.pairwise_map]
    exact (Names.pairwise_ascending _).imp Names.bytes_lt_of_lt
  · intro info member
    rw [CgroupNode.entities_eq, List.mem_map] at member
    obtain ⟨pod, named, rfl⟩ := member
    refine ⟨rfl, ?_⟩
    obtain ⟨⟨name, id⟩, found, rfl⟩ := List.mem_map.1 (Names.mem_ascending.1 named)
    exact List.ne_nil_of_mem (CgroupNode.mem_idsFor.2 found)
  · intro pod id
    have owned := CgroupNode.mem_found_iff none CgroupNode.maxLevels nodes pod id
    simp only [Option.none_or] at owned
    exact (CgroupNode.mem_entities_iff namespaceName nodes pod id).trans owned
  · intro others same distinctOthers
    exact ⟨_, listed others, CgroupNode.entities_alike same distinct distinctOthers namespaceName⟩

/-- A pod with a directory of its own in two places, a directory with the name of a pod inside the first,
and a file with such a name. -/
def podTree : List CgroupNode :=
  [.file "pod0",
    .directory "kubepods.slice" 1
      [.directory "kubepods-podaa_b.slice" 2 [.directory "podcc" 3 [], .file "poddd"],
        .directory "system.slice" 4 []],
    .directory "podaa-b" 5 []]

theorem cgroup_lists_pod_subtrees_nested :
    ∃ infos, list "" (.cgroup "cgroups" (.tree podTree) "default") = .ok infos ∧
      EntityInfo.Lists infos "aa-b" 3 ∧ EntityInfo.Lists infos "aa-b" 5 := by
  obtain ⟨infos, listed, -, -, -, owned, -⟩ :=
    cgroup_lists_pod_subtrees "" "cgroups" "default" podTree (by decide) (by decide)
  refine ⟨infos, listed, (owned "aa-b" 3).2 ?_, (owned "aa-b" 5).2 ?_⟩
  · refine ⟨["kubepods.slice", "kubepods-podaa_b.slice", "podcc"], ?_, by decide, by decide⟩
    exact .under (.tail _ (.head _)) (.under (.head _) (.here (.head _)))
  · exact ⟨["podaa-b"], .here (.tail _ (.tail _ (.head _))), by decide, by decide⟩

end Directory

end StorageTrace
