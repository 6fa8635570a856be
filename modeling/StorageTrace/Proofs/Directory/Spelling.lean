import StorageTrace.Proofs.Directory.Layouts

/-! # How pods are spelled

A plain directory names a pod only if its name goes on with a uid. A slice is taken at its word: whatever is
written behind the last marker in its name is the pod, with dashes for underscores. So a slice that is no
pod's may be taken for one, and then it lists an entity that no uid names. Nothing else does.
-/

namespace StorageTrace

namespace PodUid

/-! ## Names of slices -/

/-- The name of a slice, and what is written in it behind the last marker. -/
def SliceOf (name written : String) : Prop :=
  (∃ parent, name = parent ++ "-pod" ++ written ++ ".slice") ∧ ¬ sliceMarker <:+: written.toList

/-- What a slice says with dashes for underscores. -/
def unescaped (written : String) : String := String.ofList (unescape written.toList)

/-- The name is a slice's and goes on with something that is not the spelling of a uid. -/
def Misspelled (name : String) : Prop :=
  ∃ written, SliceOf name written ∧ ∃ c ∈ written.toList, c ≠ '_' ∧ isUidChar c = false

theorem SliceOf.ofName? {name written : String} (slice : SliceOf name written) (filled : written ≠ "") :
    ofName? name = some (unescaped written) := by
  obtain ⟨⟨parent, rfl⟩, last⟩ := slice
  exact ofName?_slice parent last filled

/-- A plain directory names the uid that it goes on with, and a slice names whatever is written behind its
last marker. -/
theorem ofName?_eq_some_iff {name uid : String} :
    ofName? name = some uid ↔
      (name = plainName uid ∧ IsUid uid) ∨
        ∃ written, SliceOf name written ∧ written ≠ "" ∧ uid = unescaped written := by
  constructor
  · intro found
    obtain ⟨chars, read, rfl⟩ := Option.map_eq_some_iff.1 found
    rw [ofChars?] at read
    cases cut : withoutEnding? sliceEnding name.toList with
    | some stem =>
      simp only [cut] at read
      cases marked : afterLast? sliceMarker stem with
      | none => simp [marked] at read
      | some written =>
        simp only [marked] at read
        obtain ⟨⟨front, rfl⟩, last⟩ := afterLast?_sliceMarker.1 marked
        have spelled := withoutEnding?_eq_some_iff.1 cut
        obtain ⟨filled, rfl⟩ : ¬ written.isEmpty = true ∧ unescape written = chars := by simpa using read
        refine .inr ⟨String.ofList written, ⟨⟨String.ofList front, ?_⟩, ?_⟩, ?_, ?_⟩
        · rw [← String.toList_inj, toList_slice, String.toList_ofList, String.toList_ofList, spelled]
        · rwa [String.toList_ofList]
        · simpa using filled
        · rw [unescaped, String.toList_ofList]
    | none =>
      simp only [cut] at read
      cases tail : withoutBeginning? plainBeginning name.toList with
      | none => simp [tail] at read
      | some rest =>
        simp only [tail] at read
        have spelled := withoutBeginning?_eq_some_iff.1 tail
        obtain ⟨⟨filled, isUid⟩, rfl⟩ : (rest ≠ [] ∧ ∀ c ∈ rest, isUidChar c = true) ∧ rest = chars := by
          simpa using read
        refine .inl ⟨?_, ?_, ?_⟩
        · rw [← String.toList_inj, toList_plainName, String.toList_ofList, spelled]
        · simpa using filled
        · rwa [String.toList_ofList]
  · rintro (⟨rfl, isUid⟩ | ⟨written, slice, filled, rfl⟩)
    · exact isUid.ofName?_plainName
    · exact slice.ofName? filled

theorem isUid_unescaped_iff {written : String} :
    IsUid (unescaped written) ↔
      written ≠ "" ∧ ∀ c ∈ written.toList, c = '_' ∨ isUidChar c = true := by
  have filled : unescaped written ≠ "" ↔ written ≠ "" := by simp [unescaped, unescape]
  have char (c : Char) : isUidChar (if c = '_' then '-' else c) = true ↔ c = '_' ∨ isUidChar c = true := by
    by_cases dash : c = '_'
    · simp [dash, isUidChar]
    · simp [dash]
  have chars : (unescaped written).toList = written.toList.map fun c => if c = '_' then '-' else c :=
    String.toList_ofList
  rw [IsUid, filled, chars, List.forall_mem_map]
  simp only [char]

theorem Misspelled.ofName? {name : String} (misspelled : Misspelled name) :
    ∃ uid, PodUid.ofName? name = some uid := by
  obtain ⟨written, slice, c, member, -⟩ := misspelled
  exact ⟨_, slice.ofName? (by rintro rfl; cases member)⟩

/-- No name gives the empty uid. -/
theorem ne_empty {name uid : String} (found : ofName? name = some uid) : uid ≠ "" := by
  rcases ofName?_eq_some_iff.1 found with ⟨-, isUid⟩ | ⟨written, -, filled, rfl⟩
  · exact isUid.1
  · simpa [unescaped, unescape] using filled

/-- A recognised name gives a uid unless it is a misspelled slice's. -/
theorem isUid_iff {name uid : String} (found : ofName? name = some uid) :
    IsUid uid ↔ ¬ Misspelled name := by
  constructor
  · rintro isUid ⟨written, slice, c, member, other⟩
    have filled : written ≠ "" := by
      rintro rfl
      cases member
    have same : uid = unescaped written := Option.some.inj (found.symm.trans (slice.ofName? filled))
    rw [same, isUid_unescaped_iff] at isUid
    rcases isUid.2 c member with dash | spelled
    · exact other.1 dash
    · rw [other.2] at spelled
      cases spelled
  · intro spelled
    rcases ofName?_eq_some_iff.1 found with ⟨-, isUid⟩ | ⟨written, slice, filled, rfl⟩
    · exact isUid
    · refine isUid_unescaped_iff.2 ⟨filled, fun c member => ?_⟩
      by_contra bad
      rw [not_or, Bool.not_eq_true] at bad
      exact spelled ⟨written, slice, c, member, bad⟩

end PodUid

namespace CgroupNode

/-- What a path goes through is a directory too. -/
theorem At.through {nodes : List CgroupNode} {path below : List String} {name : String} {id : UInt64}
    (there : At nodes (path ++ name :: below) id) : ∃ id, At nodes (path ++ [name]) id := by
  induction path generalizing nodes with
  | nil =>
    cases there with
    | here member => exact ⟨_, .here member⟩
    | under member inside => exact ⟨_, .here member⟩
  | cons first path ih =>
    rw [List.cons_append] at there
    generalize rest : path ++ name :: below = others at there
    cases there with
    | here member => simp at rest
    | under member inside =>
      subst rest
      obtain ⟨id, there⟩ := ih inside
      exact ⟨id, .under member there⟩

/-- The scan lists the pods that are named by directories that it comes to below no other pod. -/
theorem mem_names_entities_iff (namespaceName : String) (nodes : List CgroupNode) (pod : String) :
    pod ∈ (entities namespaceName nodes).map (·.name) ↔
      ∃ path name id, At nodes (path ++ [name]) id ∧ path.length < maxLevels ∧
        (∀ above ∈ path, PodUid.ofName? above = none) ∧ PodUid.ofName? name = some pod := by
  have listed : (entities namespaceName nodes).map (·.name) =
      Names.ascending ((found none maxLevels nodes).map Prod.fst) := by
    rw [entities_eq, List.map_map]
    exact List.map_id _
  rw [listed, Names.mem_ascending, List.mem_map]
  constructor
  · rintro ⟨⟨pod, id⟩, found, rfl⟩
    obtain ⟨whole, there, near, owned⟩ := (mem_found_iff ..).1 found
    rw [Option.none_or, List.findSome?_eq_some_iff] at owned
    obtain ⟨path, name, below, rfl, named, unowned⟩ := owned
    obtain ⟨id, there⟩ := there.through
    rw [List.length_append, List.length_cons] at near
    exact ⟨path, name, id, there, by omega, unowned, named⟩
  · rintro ⟨path, name, id, there, near, unowned, named⟩
    exact ⟨(pod, id), mem_found_of_named there near unowned named, rfl⟩

end CgroupNode

namespace PodUid

/-- A recognised name is that of a plain directory, which tells a uid, or of a slice, which tells what is
written behind its last marker. It never tells the empty name, and it tells a uid unless it belongs to a
slice in which something other than a uid is written. So all entities of a scan are called by uids if and only
if it comes to no such slice, other than below a pod. -/
theorem uid_unless_misspelled (name uid namespaceName : String) (nodes : List CgroupNode) :
    (ofName? name = some uid ↔
      (name = plainName uid ∧ IsUid uid) ∨
        ∃ written, SliceOf name written ∧ written ≠ "" ∧ uid = unescaped written) ∧
    (ofName? name = some uid → uid ≠ "" ∧ (IsUid uid ↔ ¬ Misspelled name)) ∧
    ((∀ info ∈ CgroupNode.entities namespaceName nodes, IsUid info.name) ↔
      ∀ path name id, CgroupNode.At nodes (path ++ [name]) id → path.length < CgroupNode.maxLevels →
        (∀ above ∈ path, ofName? above = none) → ¬ Misspelled name) := by
  refine ⟨ofName?_eq_some_iff, fun found => ⟨ne_empty found, isUid_iff found⟩, ?_⟩
  rw [← List.forall_mem_map (f := EntityInfo.name) (P := IsUid)]
  simp only [CgroupNode.mem_names_entities_iff]
  constructor
  · intro spelled path name id there near unowned misspelled
    obtain ⟨pod, named⟩ := misspelled.ofName?
    exact (isUid_iff named).1 (spelled pod ⟨path, name, id, there, near, unowned, named⟩) misspelled
  · rintro spelled pod ⟨path, name, id, there, near, unowned, named⟩
    exact (isUid_iff named).2 (spelled path name id there near unowned)

/-- A plain directory that is no pod's, and a slice that is none either, with a pod in it. -/
def lookalikes : List CgroupNode :=
  [.directory "podman" 1 [], .directory "machine-podman.slice" 2 [.directory "podcc" 3 []]]

theorem uid_unless_misspelled_lookalike :
    ofName? "podman" = none ∧ ofName? "machine-podman.slice" = some "man" ∧ ¬ IsUid "man" ∧
      Misspelled "machine-podman.slice" ∧
      ¬ ∀ info ∈ CgroupNode.entities "default" lookalikes, IsUid info.name := by
  obtain ⟨recognised, told, scanned⟩ :=
    uid_unless_misspelled "machine-podman.slice" "man" "default" lookalikes
  have slice : SliceOf "machine-podman.slice" "man" := ⟨⟨"machine", by decide⟩, by decide⟩
  have named : ofName? "machine-podman.slice" = some "man" :=
    recognised.2 (.inr ⟨"man", slice, by decide, by decide⟩)
  have misspelled : Misspelled "machine-podman.slice" :=
    ⟨"man", slice, 'm', by decide, by decide, by decide⟩
  have unlike : ¬ IsUid "man" := fun isUid => (told named).2.1 isUid misspelled
  refine ⟨by decide, named, unlike, misspelled, fun spelled => ?_⟩
  exact scanned.1 spelled [] "machine-podman.slice" 2 (.here (.tail _ (.head _))) (by decide) (by simp)
    misspelled

end PodUid

end StorageTrace
