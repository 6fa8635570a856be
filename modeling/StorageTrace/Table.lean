/-! # Finite tables

A table is a list of entries, one per key, in the order in which the keys were first inserted.
Every operation keeps the keys distinct, so a lookup and the list of entries determine each other.
-/

namespace StorageTrace

/-- A finite map from keys to values that remembers the order of first insertion. -/
structure Table (κ : Type) (α : Type) where
  entries : List (κ × α)
  distinct : (entries.map Prod.fst).Nodup

namespace Table

variable {κ α β : Type}

/-- The table without entries. -/
def empty : Table κ α := ⟨[], List.nodup_nil⟩

instance : Inhabited (Table κ α) := ⟨empty⟩

def size (table : Table κ α) : Nat := table.entries.length

def isEmpty (table : Table κ α) : Bool := table.entries.isEmpty

def keys (table : Table κ α) : List κ := table.entries.map Prod.fst

def values (table : Table κ α) : List α := table.entries.map Prod.snd

section Keyed

variable [DecidableEq κ]

/-- The value stored under a key. -/
def find? (table : Table κ α) (key : κ) : Option α := table.entries.lookup key

def contains (table : Table κ α) (key : κ) : Bool := (table.find? key).isSome

private theorem keys_replace (entries : List (κ × α)) (key : κ) (value : α) :
    (entries.map fun entry => if entry.1 = key then (key, value) else entry).map Prod.fst =
      entries.map Prod.fst := by
  rw [List.map_map]
  apply List.map_congr_left
  intro entry _
  by_cases same : entry.1 = key <;> simp [same]

/-- Whether an entry of the list carries the key. -/
def hasKey (entries : List (κ × α)) (key : κ) : Bool := entries.any fun entry => entry.1 = key

theorem hasKey_iff (entries : List (κ × α)) (key : κ) :
    hasKey entries key = true ↔ key ∈ entries.map Prod.fst := by
  simp only [hasKey, List.any_eq_true, decide_eq_true_eq, List.mem_map]

/-- Stores a value under a key: in place if the key is present, at the end otherwise. -/
def insert (table : Table κ α) (key : κ) (value : α) : Table κ α :=
  if present : hasKey table.entries key then
    { entries := table.entries.map fun entry => if entry.1 = key then (key, value) else entry
      distinct := by rw [keys_replace]; exact table.distinct }
  else
    { entries := table.entries ++ [(key, value)]
      distinct := by
        have absent : key ∉ table.entries.map Prod.fst := fun member =>
          present ((hasKey_iff _ _).2 member)
        rw [List.map_append, List.nodup_append]
        refine ⟨table.distinct, by simp, ?_⟩
        intro left member right single
        simp only [List.map_cons, List.map_nil, List.mem_singleton] at single
        rintro rfl
        exact absent (single ▸ member) }

/-- Removes the entry of a key. -/
def erase (table : Table κ α) (key : κ) : Table κ α :=
  { entries := table.entries.filter fun entry => entry.1 ≠ key
    distinct := List.Sublist.nodup (List.Sublist.map _ List.filter_sublist) table.distinct }

/-- The table that stores each pair of a list in turn, so the last value of a key remains. -/
def ofList (pairs : List (κ × α)) : Table κ α :=
  pairs.foldl (fun table pair => table.insert pair.1 pair.2) empty

end Keyed

/-- Keeps the entries that satisfy a test. -/
def filter (table : Table κ α) (keep : κ → α → Bool) : Table κ α :=
  { entries := table.entries.filter fun entry => keep entry.1 entry.2
    distinct := List.Sublist.nodup (List.Sublist.map _ List.filter_sublist) table.distinct }

/-- Applies a function to every value. -/
def map (table : Table κ α) (f : κ → α → β) : Table κ β :=
  { entries := table.entries.map fun entry => (entry.1, f entry.1 entry.2)
    distinct := by rw [List.map_map]; exact table.distinct }

/-- The entries in ascending order of their names. -/
def sorted (table : Table String α) : List (String × α) :=
  table.entries.mergeSort fun left right => decide (left.1 ≤ right.1)

theorem find?_empty [DecidableEq κ] (key : κ) : (empty : Table κ α).find? key = none := rfl

private theorem lookup_cons_ite [DecidableEq κ] (head : κ × α) (rest : List (κ × α)) (key : κ) :
    (head :: rest).lookup key = if key = head.1 then some head.2 else rest.lookup key := by
  obtain ⟨first, stored⟩ := head
  by_cases same : key = first
  · simp [same]
  · simp [List.lookup_cons, beq_eq_false_iff_ne.2 same, same]

private theorem lookup_eq_none [DecidableEq κ] (entries : List (κ × α)) (key : κ)
    (absent : key ∉ entries.map Prod.fst) : entries.lookup key = none := by
  induction entries with
  | nil => rfl
  | cons head rest ih =>
    rw [List.map_cons, List.mem_cons, not_or] at absent
    rw [lookup_cons_ite, if_neg absent.1, ih absent.2]

private theorem lookup_replace [DecidableEq κ] (entries : List (κ × α)) (key other : κ) (value : α)
    (present : key ∈ entries.map Prod.fst) :
    (entries.map fun entry => if entry.1 = key then (key, value) else entry).lookup other =
      if other = key then some value else entries.lookup other := by
  induction entries with
  | nil => simp at present
  | cons head rest ih =>
    by_cases later : key ∈ rest.map Prod.fst
    · rw [List.map_cons, lookup_cons_ite, lookup_cons_ite, ih later]
      by_cases here : head.1 = key
      · rw [if_pos here, here]
        by_cases same : other = key <;> simp [same]
      · rw [if_neg here]
        by_cases same : other = key
        · subst same
          rw [if_neg fun equal => here equal.symm]
          simp
        · simp [same]
    · have here : head.1 = key := by
        rw [List.map_cons, List.mem_cons] at present
        exact (present.resolve_right later).symm
      have unchanged :
          (rest.map fun entry => if entry.1 = key then (key, value) else entry) = rest := by
        conv => rhs; rw [← List.map_id rest]
        apply List.map_congr_left
        intro entry member
        exact if_neg fun (equal : entry.1 = key) => later (equal ▸ List.mem_map_of_mem member)
      rw [List.map_cons, if_pos here, unchanged, lookup_cons_ite, lookup_cons_ite, here]
      by_cases same : other = key <;> simp [same]

private theorem lookup_append_single [DecidableEq κ] (entries : List (κ × α)) (key other : κ)
    (value : α) (absent : key ∉ entries.map Prod.fst) :
    (entries ++ [(key, value)]).lookup other =
      if other = key then some value else entries.lookup other := by
  induction entries with
  | nil => exact lookup_cons_ite _ _ _
  | cons head rest ih =>
    rw [List.map_cons, List.mem_cons, not_or] at absent
    rw [List.cons_append, lookup_cons_ite, lookup_cons_ite, ih absent.2]
    by_cases same : other = key
    · subst same
      rw [if_neg absent.1, if_pos rfl, if_pos rfl]
    · simp [same]

/-- A stored value is found under its key and every other key answers as before. -/
theorem find?_insert [DecidableEq κ] (table : Table κ α) (key other : κ) (value : α) :
    (table.insert key value).find? other = if other = key then some value else table.find? other := by
  unfold insert find?
  split
  · rename_i present
    exact lookup_replace _ _ _ _ ((hasKey_iff _ _).1 present)
  · rename_i absent
    exact lookup_append_single _ _ _ _ fun member => absent ((hasKey_iff _ _).2 member)

private theorem lookup_erase [DecidableEq κ] (entries : List (κ × α)) (key other : κ) :
    (entries.filter fun entry => entry.1 ≠ key).lookup other =
      if other = key then none else entries.lookup other := by
  induction entries with
  | nil => simp
  | cons head rest ih =>
    rw [List.filter_cons]
    by_cases here : head.1 = key
    · rw [if_neg (by simp [here]), ih, lookup_cons_ite, here]
      by_cases same : other = key <;> simp [same]
    · rw [if_pos (by simp [here]), lookup_cons_ite, lookup_cons_ite, ih]
      by_cases same : other = key
      · subst same
        rw [if_neg fun equal => here equal.symm, if_pos rfl, if_pos rfl]
      · simp [same]

/-- After erasing, the key is absent and every other key answers as before. -/
theorem find?_erase [DecidableEq κ] (table : Table κ α) (key other : κ) :
    (table.erase key).find? other = if other = key then none else table.find? other :=
  lookup_erase _ _ _

private theorem lookup_filter [DecidableEq κ] (entries : List (κ × α)) (keep : κ → α → Bool)
    (distinct : (entries.map Prod.fst).Nodup) (key : κ) :
    (entries.filter fun entry => keep entry.1 entry.2).lookup key =
      (entries.lookup key).filter (keep key) := by
  induction entries with
  | nil => rfl
  | cons head rest ih =>
    rw [List.map_cons, List.nodup_cons] at distinct
    rw [List.filter_cons, lookup_cons_ite]
    by_cases same : key = head.1
    · subst same
      by_cases kept : keep head.1 head.2 = true
      · rw [if_pos kept, lookup_cons_ite, if_pos rfl, if_pos rfl, Option.filter_some, if_pos kept]
      · rw [if_neg kept, ih distinct.2, lookup_eq_none _ _ distinct.1, if_pos rfl,
          Option.filter_some, if_neg kept, Option.filter_none]
    · rw [if_neg same, ← ih distinct.2]
      by_cases kept : keep head.1 head.2 = true
      · rw [if_pos kept, lookup_cons_ite, if_neg same]
      · rw [if_neg kept]

/-- Filtering keeps a key exactly when its value passes the test. -/
theorem find?_filter [DecidableEq κ] (table : Table κ α) (keep : κ → α → Bool) (key : κ) :
    (table.filter keep).find? key = (table.find? key).filter (keep key) :=
  lookup_filter _ _ table.distinct _

/-- A test of keys alone keeps what is stored under the keys that pass. -/
theorem find?_filter_key [DecidableEq κ] (table : Table κ α) (keep : κ → Bool) (key : κ) :
    (table.filter fun key _ => keep key).find? key = if keep key then table.find? key else none := by
  rw [find?_filter]
  cases keep key <;> cases table.find? key <;> rfl

private theorem not_mem_of_lookup [DecidableEq κ] (entries : List (κ × α)) (key : κ)
    (absent : entries.lookup key = none) : key ∉ entries.map Prod.fst := by
  induction entries with
  | nil => simp
  | cons head rest ih =>
    rw [lookup_cons_ite] at absent
    by_cases same : key = head.1
    · rw [if_pos same] at absent
      cases absent
    · rw [if_neg same] at absent
      rw [List.map_cons, List.mem_cons, not_or]
      exact ⟨same, ih absent⟩

/-- A table answers for exactly the keys of its entries. -/
theorem find?_eq_none_iff [DecidableEq κ] (table : Table κ α) (key : κ) :
    table.find? key = none ↔ key ∉ table.keys :=
  ⟨not_mem_of_lookup _ _, lookup_eq_none _ _⟩

private theorem lookup_eq_some_iff [DecidableEq κ] (entries : List (κ × α)) (key : κ) (value : α)
    (distinct : (entries.map Prod.fst).Nodup) :
    entries.lookup key = some value ↔ (key, value) ∈ entries := by
  induction entries with
  | nil => simp
  | cons head rest ih =>
    rw [List.map_cons, List.nodup_cons] at distinct
    rw [lookup_cons_ite, List.mem_cons]
    by_cases same : key = head.1
    · rw [if_pos same]
      subst same
      refine ⟨fun found => .inl (Prod.ext rfl (Option.some.inj found).symm), ?_⟩
      rintro (equal | later)
      · rw [← equal]
      · exact absurd (List.mem_map_of_mem later) distinct.1
    · rw [if_neg same, ih distinct.2]
      refine ⟨.inr, fun member => member.resolve_left fun equal => same ?_⟩
      rw [← equal]

/-- The keys of a table are those that it answers for. -/
theorem mem_keys_iff [DecidableEq κ] (table : Table κ α) (key : κ) :
    key ∈ table.keys ↔ (table.find? key).isSome = true := by
  have absent := table.find?_eq_none_iff key
  cases stored : table.find? key with
  | none => simp [absent.1 stored]
  | some value =>
    rw [stored] at absent
    simpa using absent

/-- A table holds an entry exactly when its key answers with its value. -/
theorem find?_eq_some_iff [DecidableEq κ] (table : Table κ α) (key : κ) (value : α) :
    table.find? key = some value ↔ (key, value) ∈ table.entries :=
  lookup_eq_some_iff _ _ _ table.distinct

/-- Searching the entries of a table in any order finds what the table answers. -/
theorem find?_of_mem_iff [DecidableEq κ] (table : Table κ α) (entries : List (κ × α))
    (same : ∀ entry, entry ∈ entries ↔ entry ∈ table.entries) (key : κ) :
    (entries.find? fun entry => entry.1 = key) = (table.find? key).map fun value => (key, value) := by
  cases found : entries.find? fun entry => entry.1 = key with
  | none =>
    rw [List.find?_eq_none] at found
    cases stored : table.find? key with
    | none => rfl
    | some value =>
      have member := (same _).2 ((table.find?_eq_some_iff key value).1 stored)
      exact absurd (decide_eq_true rfl) (found _ member)
  | some entry =>
    obtain ⟨name, value⟩ := entry
    obtain rfl : name = key := by simpa using List.find?_some found
    have member := (same _).1 (List.mem_of_find?_eq_some found)
    rw [(table.find?_eq_some_iff name value).2 member, Option.map_some]

/-- A key is present exactly when a value is stored under it. -/
theorem contains_iff [DecidableEq κ] (table : Table κ α) (key : κ) :
    table.contains key = true ↔ ∃ value, table.find? key = some value :=
  Option.isSome_iff_exists

private theorem contains_eq_hasKey [DecidableEq κ] (table : Table κ α) (key : κ) :
    table.contains key = hasKey table.entries key := by
  have absent := table.find?_eq_none_iff key
  rw [keys, ← hasKey_iff] at absent
  unfold contains
  cases stored : table.find? key with
  | none => simp only [Option.isSome_none, Bool.eq_false_iff.2 (absent.1 stored)]
  | some value =>
    by_cases present : hasKey table.entries key = true
    · rw [present, Option.isSome_some]
    · rw [absent.2 present] at stored
      cases stored

/-- Storing under a new key makes the table larger by one; a key that is present only changes value. -/
theorem size_insert [DecidableEq κ] (table : Table κ α) (key : κ) (value : α) :
    (table.insert key value).size =
      if table.contains key = true then table.size else table.size + 1 := by
  rw [contains_eq_hasKey]
  unfold insert size
  split <;> simp

/-- Erasing a key that is present makes the table smaller by one. -/
theorem size_erase [DecidableEq κ] (table : Table κ α) (key : κ)
    (present : table.contains key = true) : (table.erase key).size + 1 = table.size := by
  rw [contains_eq_hasKey, hasKey_iff] at present
  have once : table.entries.countP (fun entry => entry.1 = key) = 1 := by
    have counted := table.distinct.count (a := key)
    rw [if_pos present, List.count_eq_countP, List.countP_map] at counted
    rw [← counted]
    exact List.countP_congr fun entry _ => by simp
  have split := List.length_eq_countP_add_countP (fun entry => entry.1 = key) (l := table.entries)
  rw [once, List.countP_eq_length_filter] at split
  unfold erase size
  simp only [decide_eq_true_eq] at split
  simp only [ne_eq]
  omega

/-- Erasing takes one key out and leaves the others in their order. -/
theorem keys_erase [DecidableEq κ] (table : Table κ α) (key : κ) :
    (table.erase key).keys = table.keys.filter fun other => other ≠ key :=
  (List.filter_map (p := fun other => decide (other ≠ key))).symm

/-- Erasing a key that is not there changes nothing. -/
theorem erase_eq_self [DecidableEq κ] (table : Table κ α) {key : κ} (absent : table.find? key = none) :
    table.erase key = table := by
  have others : ∀ entry ∈ table.entries, entry.1 ≠ key := by
    rintro entry member rfl
    exact (table.find?_eq_none_iff _).1 absent (List.mem_map_of_mem member)
  have same : (table.erase key).entries = table.entries :=
    List.filter_eq_self.2 fun entry member => decide_eq_true (others entry member)
  unfold erase at same ⊢
  cases table
  congr

/-- A table built from a list of keys answers for each of them with the value made from it. -/
theorem find?_ofList_map [DecidableEq κ] (keys : List κ) (f : κ → α) (key : κ) :
    (ofList (keys.map fun key => (key, f key))).find? key = if key ∈ keys then some (f key) else none := by
  have general : ∀ table : Table κ α,
      ((keys.map fun key => (key, f key)).foldl
        (fun table pair => table.insert pair.1 pair.2) table).find? key =
        if key ∈ keys then some (f key) else table.find? key := by
    induction keys with
    | nil => intro table; simp
    | cons first rest ih =>
      intro table
      rw [List.map_cons, List.foldl_cons, ih, find?_insert]
      by_cases later : key ∈ rest
      · simp [later]
      · by_cases here : key = first
        · simp [here]
        · simp [later, here]
  exact general empty

/-- Tables with the same keys have them in different orders at most. -/
theorem perm_keys {left : Table κ α} {right : Table κ β}
    (same : ∀ key, key ∈ left.keys ↔ key ∈ right.keys) : left.keys.Perm right.keys :=
  (List.perm_ext_iff_of_nodup left.distinct right.distinct).2 same

/-- Counting values is counting keys by what stands under them. -/
theorem countP_values [DecidableEq κ] (table : Table κ α) (absent : α) (test : α → Bool) :
    table.values.countP test = table.keys.countP fun key => test ((table.find? key).getD absent) := by
  rw [values, keys, List.countP_map, List.countP_map]
  apply List.countP_congr
  rintro ⟨key, value⟩ member
  have stored := (table.find?_eq_some_iff key value).2 member
  simp [stored]

theorem size_filter_le (table : Table κ α) (keep : κ → α → Bool) :
    (table.filter keep).size ≤ table.size :=
  List.length_filter_le _ _

/-- A filter drops the entries that it rejects. -/
theorem size_sub_filter (table : Table κ α) (keep : κ → α → Bool) :
    table.size - (table.filter keep).size = table.entries.countP fun entry => !keep entry.1 entry.2 := by
  have split := List.length_eq_countP_add_countP (fun entry => keep entry.1 entry.2) (l := table.entries)
  have kept : (table.filter keep).size = table.entries.countP fun entry => keep entry.1 entry.2 :=
    List.countP_eq_length_filter.symm
  simp only [Bool.not_eq_true, Bool.decide_eq_false] at split
  rw [kept, size]
  omega

/-- A filter that every entry passes changes nothing. -/
theorem filter_eq_self (table : Table κ α) {keep : κ → α → Bool}
    (passes : ∀ key value, keep key value = true) : table.filter keep = table := by
  have same : (table.filter keep).entries = table.entries :=
    List.filter_eq_self.2 fun entry _ => passes entry.1 entry.2
  unfold filter at same ⊢
  cases table
  congr

/-- What a filter leaves passes it again. -/
theorem filter_filter_self (table : Table κ α) (keep : κ → α → Bool) :
    (table.filter keep).filter keep = table.filter keep := by
  unfold filter
  congr 1
  rw [List.filter_filter]
  simp only [Bool.and_self]

/-- A filter that drops nothing passes everything that is stored. -/
theorem pass_of_size_filter [DecidableEq κ] (table : Table κ α) (keep : κ → α → Bool)
    (same : table.size - (table.filter keep).size = 0) {key : κ} {value : α}
    (stored : table.find? key = some value) : keep key value = true := by
  have less := table.size_filter_le keep
  have whole : (table.filter keep).size = table.size := by omega
  have all := List.length_filter_eq_length_iff.1 whole
  exact all (key, value) ((table.find?_eq_some_iff key value).1 stored)

end Table

/-! ## Values that carry their keys -/

/-- Of values made from distinct keys, each carrying its own, a key picks the one made from it. -/
theorem filter_filterMap_key {κ α : Type} [DecidableEq κ] {key : α → κ} {make : κ → Option α}
    (keyed : ∀ name value, make name = some value → key value = name) {keys : List κ}
    (distinct : keys.Nodup) (name : κ) :
    (keys.filterMap make).filter (fun value => key value = name) =
      if name ∈ keys then (make name).toList else [] := by
  induction keys with
  | nil => rfl
  | cons first rest ih =>
    obtain ⟨fresh, distinct⟩ := List.nodup_cons.1 distinct
    have later := ih distinct
    cases made : make first with
    | none =>
      rw [List.filterMap_cons_none made, later]
      by_cases same : name = first
      · subst same
        simp [made]
      · simp [same]
    | some value =>
      rw [List.filterMap_cons_some made, List.filter_cons, later, keyed first value made]
      by_cases same : name = first
      · subst same
        simp [made, fresh]
      · simp [same, Ne.symm same]

end StorageTrace
