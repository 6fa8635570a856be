import StorageTrace.Proofs.Directory.Scanning

/-! # The two layouts of pod directories

A pod's directory is a slice under whatever parent name, or a plain directory. Whichever of the two it is,
its name tells the uid of the pod: the marker in front of the uid is the last one of a slice's name since a
uid has no dashes left there, and a plain name is never taken for that of a slice. So a scan gives both
kinds of directory to the same pod.
-/

namespace StorageTrace

namespace PodUid

/-- The spelling of a uid in slices. -/
def escape (uid : List Char) : List Char := uid.map fun c => if c = '-' then '_' else c

/-- The name of a pod's directory as a slice. -/
def sliceName (parent uid : String) : String :=
  parent ++ "-pod" ++ String.ofList (escape uid.toList) ++ ".slice"

/-- The name of a pod's directory in the plain layout. -/
def plainName (uid : String) : String := "pod" ++ uid

theorem toList_plainName (uid : String) : (plainName uid).toList = plainBeginning ++ uid.toList := by
  rw [plainName, String.toList_append]
  rfl

/-! ## Parts of names -/

theorem withoutEnding?_append (stem ending : List Char) :
    withoutEnding? ending (stem ++ ending) = some stem := by
  rw [withoutEnding?, if_pos (List.isSuffixOf_iff_suffix.2 (List.suffix_append ..)), List.length_append,
    Nat.add_sub_cancel, List.take_left]

theorem withoutEnding?_eq_some_iff {ending name stem : List Char} :
    withoutEnding? ending name = some stem ↔ name = stem ++ ending := by
  constructor
  · intro found
    obtain ⟨front, rfl⟩ : ending <:+ name := by
      rw [withoutEnding?, Option.ite_none_right_eq_some] at found
      exact List.isSuffixOf_iff_suffix.1 found.1
    rw [withoutEnding?_append] at found
    rw [Option.some.inj found]
  · rintro rfl
    exact withoutEnding?_append stem ending

theorem withoutEnding?_eq_none {ending name : List Char} {c : Char} (inside : c ∈ ending)
    (absent : c ∉ name) : withoutEnding? ending name = none := by
  refine if_neg fun suffix => absent ?_
  exact (List.isSuffixOf_iff_suffix.1 suffix).subset inside

theorem withoutBeginning?_append (beginning rest : List Char) :
    withoutBeginning? beginning (beginning ++ rest) = some rest := by
  rw [withoutBeginning?, if_pos (List.isPrefixOf_iff_prefix.2 (List.prefix_append ..)), List.drop_left]

theorem withoutBeginning?_eq_some_iff {beginning name rest : List Char} :
    withoutBeginning? beginning name = some rest ↔ name = beginning ++ rest := by
  constructor
  · intro found
    obtain ⟨back, rfl⟩ : beginning <+: name := by
      rw [withoutBeginning?, Option.ite_none_right_eq_some] at found
      exact List.isPrefixOf_iff_prefix.1 found.1
    rw [withoutBeginning?_append] at found
    rw [Option.some.inj found]
  · rintro rfl
    exact withoutBeginning?_append beginning rest

/-- A marker is found unless it does not occur. -/
theorem afterLast?_eq_none_iff {first : Char} {others name : List Char} :
    afterLast? (first :: others) name = none ↔ ¬ first :: others <:+: name := by
  induction name with
  | nil => simp [afterLast?]
  | cons c tail ih =>
    rw [List.infix_cons_iff, not_or, ← ih, afterLast?]
    cases afterLast? (first :: others) tail with
    | some later => simp
    | none => simp

/-- A marker whose first character does not come again cannot begin within itself. -/
theorem infix_append_iff {first : Char} {others before rest : List Char} (once : first ∉ before) :
    first :: others <:+: before ++ rest ↔ first :: others <:+: rest := by
  induction before with
  | nil => rfl
  | cons c before ih =>
    rw [List.mem_cons, not_or] at once
    rw [List.cons_append, List.infix_cons_iff, List.cons_prefix_cons, ih once.2]
    exact or_iff_right fun begins => once.1 begins.1

/-- What follows the last marker is what follows a marker and has none in it. -/
theorem afterLast?_eq_some_iff {first : Char} {others name rest : List Char} (once : first ∉ others) :
    afterLast? (first :: others) name = some rest ↔
      (∃ stem, name = stem ++ (first :: others) ++ rest) ∧ ¬ first :: others <:+: rest := by
  induction name with
  | nil => simp [afterLast?]
  | cons c tail ih =>
    -- the marker begins the name or stands in the rest of it
    have shape : (∃ stem, c :: tail = stem ++ (first :: others) ++ rest) ↔
        c :: tail = first :: others ++ rest ∨ ∃ stem, tail = stem ++ (first :: others) ++ rest := by
      constructor
      · rintro ⟨stem, split⟩
        cases stem with
        | nil => exact .inl split
        | cons d stem => exact .inr ⟨stem, (List.cons.inj split).2⟩
      · rintro (split | ⟨stem, rfl⟩)
        · exact ⟨[], split⟩
        · exact ⟨c :: stem, rfl⟩
    rw [afterLast?, shape]
    cases later : afterLast? (first :: others) tail with
    | some found =>
      have present : first :: others <:+: tail := by
        rw [← Decidable.not_not (p := _ <:+: _), ← afterLast?_eq_none_iff, later]
        exact Option.some_ne_none found
      rw [later] at ih
      dsimp only
      rw [ih]
      refine and_congr_left fun absent => (or_iff_right fun split => absent ?_).symm
      rw [(List.cons.inj split).2] at present
      exact (infix_append_iff once).1 present
    | none =>
      have absent := afterLast?_eq_none_iff.1 later
      dsimp only
      rw [Option.ite_none_right_eq_some, List.isPrefixOf_iff_prefix]
      constructor
      · rintro ⟨⟨back, split⟩, cut⟩
        rw [← split, List.drop_left] at cut
        cases cut
        refine ⟨.inl split.symm, fun inside => absent ?_⟩
        rw [← (List.cons.inj split).2]
        exact (infix_append_iff once).2 inside
      · rintro ⟨split | ⟨stem, rfl⟩, -⟩
        · rw [split]
          exact ⟨List.prefix_append .., congrArg some List.drop_left⟩
        · exact absurd ⟨stem, rest, rfl⟩ absent

theorem afterLast?_sliceMarker {stem written : List Char} :
    afterLast? sliceMarker stem = some written ↔
      (∃ front, stem = front ++ sliceMarker ++ written) ∧ ¬ sliceMarker <:+: written :=
  afterLast?_eq_some_iff (by decide)

theorem toList_slice (parent written : String) :
    (parent ++ "-pod" ++ written ++ ".slice").toList =
      (parent.toList ++ sliceMarker ++ written.toList) ++ sliceEnding := by
  rw [String.toList_append, String.toList_append, String.toList_append]
  rfl

/-- A slice gives what is written behind the last marker in its name. -/
theorem ofName?_slice (parent : String) {written : String} (last : ¬ sliceMarker <:+: written.toList)
    (filled : written ≠ "") :
    ofName? (parent ++ "-pod" ++ written ++ ".slice") = some (String.ofList (unescape written.toList)) := by
  have marked : afterLast? sliceMarker (parent.toList ++ sliceMarker ++ written.toList) =
      some written.toList :=
    afterLast?_sliceMarker.2 ⟨⟨parent.toList, rfl⟩, last⟩
  have nonempty : written.toList.isEmpty = false := by
    simpa using filled
  rw [ofName?, toList_slice, ofChars?, withoutEnding?_append]
  simp only [marked, nonempty]
  rfl

/-! ## Uids -/

/-- A uid is not empty and spelled with hexadecimal digits and dashes. -/
def IsUid (uid : String) : Prop := uid ≠ "" ∧ ∀ c ∈ uid.toList, isUidChar c = true

instance (uid : String) : Decidable (IsUid uid) := inferInstanceAs (Decidable (_ ∧ _))

theorem dash_not_mem_escape (uid : List Char) : '-' ∉ escape uid := by
  rw [escape, List.mem_map]
  rintro ⟨c, -, spelled⟩
  split at spelled
  · cases spelled
  · contradiction

theorem unescape_escape {uid : List Char} (plain : '_' ∉ uid) : unescape (escape uid) = uid := by
  rw [unescape, escape, List.map_map]
  conv => rhs; rw [← List.map_id uid]
  refine List.map_congr_left fun c member => ?_
  have other : c ≠ '_' := fun same => plain (same ▸ member)
  by_cases dash : c = '-' <;> simp [dash, other]

namespace IsUid

variable {uid : String} (isUid : IsUid uid)

include isUid

theorem not_mem {c : Char} (other : isUidChar c = false) : c ∉ uid.toList := by
  intro member
  rw [isUid.2 c member] at other
  cases other

theorem toList_ne_nil : uid.toList ≠ [] := fun empty => isUid.1 (String.toList_eq_nil_iff.1 empty)

theorem ofName?_sliceName (parent : String) : ofName? (sliceName parent uid) = some uid := by
  have last : ¬ sliceMarker <:+: (String.ofList (escape uid.toList)).toList := by
    rw [String.toList_ofList]
    exact fun inside => dash_not_mem_escape uid.toList (inside.subset (.head _))
  have filled : String.ofList (escape uid.toList) ≠ "" := by
    simpa [escape] using isUid.toList_ne_nil
  rw [sliceName, ofName?_slice parent last filled, String.toList_ofList,
    unescape_escape (isUid.not_mem (by decide)), String.ofList_toList]

theorem ofName?_plainName : ofName? (plainName uid) = some uid := by
  have plain : withoutEnding? sliceEnding (plainBeginning ++ uid.toList) = none := by
    refine withoutEnding?_eq_none (c := '.') (by decide) ?_
    rw [List.mem_append, not_or]
    exact ⟨by decide, isUid.not_mem (by decide)⟩
  have spelled : (!uid.toList.isEmpty && uid.toList.all isUidChar) = true := by
    simpa [isUid.toList_ne_nil] using isUid.2
  rw [ofName?, toList_plainName, ofChars?, plain]
  simp only [withoutBeginning?_append, spelled]
  exact congrArg some String.ofList_toList

end IsUid

end PodUid

namespace CgroupNode

/-- The scan gives a directory that is not too deep to the pod that it names if nothing above it names any. -/
theorem mem_found_of_named {nodes : List CgroupNode} {path : List String} {name pod : String} {id : UInt64}
    (there : At nodes (path ++ [name]) id) (near : path.length < maxLevels)
    (unowned : ∀ above ∈ path, PodUid.ofName? above = none) (named : PodUid.ofName? name = some pod) :
    (pod, id) ∈ found none maxLevels nodes := by
  have owner : (path ++ [name]).findSome? PodUid.ofName? = some pod := by
    rw [List.findSome?_append, List.findSome?_eq_none_iff.2 unowned, Option.none_or,
      List.findSome?_singleton, named]
  exact (mem_found_iff ..).2 ⟨_, there, by rw [List.length_append]; exact near, owner⟩

/-- Where ids tell directories apart, it gives the directory to no other pod. -/
theorem lists_iff_of_named {nodes : List CgroupNode} (distinct : (ids nodes).Nodup) {path : List String}
    {name pod : String} {id : UInt64} (there : At nodes (path ++ [name]) id) (near : path.length < maxLevels)
    (unowned : ∀ above ∈ path, PodUid.ofName? above = none) (named : PodUid.ofName? name = some pod)
    (namespaceName other : String) :
    EntityInfo.Lists (entities namespaceName nodes) other id ↔ other = pod := by
  have own := mem_found_of_named there near unowned named
  rw [mem_entities_iff]
  refine ⟨fun found => ?_, fun same => same ▸ own⟩
  by_contra differ
  exact disjoint_idsFor distinct differ (mem_idsFor.2 found) (mem_idsFor.2 own)

end CgroupNode

namespace PodUid

/-- Under every parent, the slice of a pod names the uid of the pod, and so does its plain directory. In a
tree whose directories have ids of their own, both are listed under that uid and no other, wherever they
are, as long as the scan reaches them and comes to no other pod on its way. -/
theorem layouts_name_same_pod {uid : String} (isUid : IsUid uid) (parent : String) :
    ofName? (sliceName parent uid) = some uid ∧ ofName? (plainName uid) = some uid ∧
      ∀ nodes path id, (CgroupNode.ids nodes).Nodup →
        (CgroupNode.At nodes (path ++ [sliceName parent uid]) id ∨
          CgroupNode.At nodes (path ++ [plainName uid]) id) →
        path.length < CgroupNode.maxLevels → (∀ above ∈ path, ofName? above = none) →
        ∀ namespaceName pod,
          EntityInfo.Lists (CgroupNode.entities namespaceName nodes) pod id ↔ pod = uid := by
  refine ⟨isUid.ofName?_sliceName parent, isUid.ofName?_plainName, ?_⟩
  intro nodes path id distinct there near unowned
  rcases there with slice | plain
  · exact CgroupNode.lists_iff_of_named distinct slice near unowned (isUid.ofName?_sliceName parent)
  · exact CgroupNode.lists_iff_of_named distinct plain near unowned isUid.ofName?_plainName

/-- A pod with a slice, under a parent that reads like two slices of other pods, and a plain directory. -/
def bothLayouts : List CgroupNode :=
  [.directory "kubepods.slice" 1 [.directory (sliceName "a-pod_1-podb2" "9f-8E-c") 2 []],
    .directory (plainName "9f-8E-c") 3 []]

theorem layouts_name_same_pod_misleading :
    IsUid "9f-8E-c" ∧ ofName? (sliceName "a-pod_1-podb2" "9f-8E-c") = some "9f-8E-c" ∧
      ofName? (plainName "9f-8E-c") = some "9f-8E-c" ∧
      ∀ pod, (EntityInfo.Lists (CgroupNode.entities "default" bothLayouts) pod 2 ↔ pod = "9f-8E-c") ∧
        (EntityInfo.Lists (CgroupNode.entities "default" bothLayouts) pod 3 ↔ pod = "9f-8E-c") := by
  have isUid : IsUid "9f-8E-c" := ⟨by decide, List.all_eq_true.1 rfl⟩
  obtain ⟨slice, plain, listed⟩ := layouts_name_same_pod isUid "a-pod_1-podb2"
  have distinct : (CgroupNode.ids bothLayouts).Nodup := by decide
  refine ⟨isUid, slice, plain, fun pod => ⟨?_, ?_⟩⟩
  · exact listed bothLayouts ["kubepods.slice"] 2 distinct (.inl (.under (.head _) (.here (.head _))))
      (by decide) (by decide) "default" pod
  · exact listed bothLayouts [] 3 distinct (.inr (.here (.tail _ (.head _)))) (by decide) (by decide)
      "default" pod

end PodUid

end StorageTrace
