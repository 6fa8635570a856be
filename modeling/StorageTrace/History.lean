import StorageTrace.Snapshot
import StorageTrace.Table

/-! # Bounded histories

A history keeps the latest snapshots of each entity, oldest first, up to a capacity of at least one.
A snapshot whose time lies before the one at the end of its list takes over that time, so the times
of a list never decrease.
-/

namespace StorageTrace

/-- The retained snapshots of every entity. -/
structure History where
  capacity : Nat
  entries : Table String (List Snapshot) := Table.empty

namespace History

/-- An empty history; a capacity of zero counts as one. -/
def new (capacity : Nat) : History := { capacity := max capacity 1 }

/-- The retained snapshots of an entity, oldest first. -/
def all (history : History) (entity : String) : List Snapshot :=
  (history.entries.find? entity).getD []

/-- The most recent snapshot of an entity. -/
def latest? (history : History) (entity : String) : Option Snapshot :=
  (history.all entity).getLast?

def length (history : History) (entity : String) : Nat := (history.all entity).length

def isEmpty (history : History) : Bool := history.entries.isEmpty

/-- The entities with at least one snapshot. -/
def entities (history : History) : List String := history.entries.keys

/-- A snapshot with its time raised to that of the snapshot before it. -/
def clamp (before : Option Snapshot) (snapshot : Snapshot) : Snapshot :=
  match before with
  | some tail =>
    if snapshot.timestamp.nanos < tail.timestamp.nanos then
      { snapshot with timestamp := tail.timestamp }
    else snapshot
  | none => snapshot

/-- The last elements of a list, at most so many. -/
def lastOf {α : Type} (count : Nat) (elements : List α) : List α :=
  elements.drop (elements.length - count)

/-- Adds a snapshot at the end of an entity's list and drops the oldest beyond the capacity. The first
snapshot of an entity takes up memory for the whole capacity at once, which is taken to be there: limits
of allocation are not modelled. -/
def append (history : History) (entity : String) (snapshot : Snapshot) : History :=
  let old := history.all entity
  let extended := old ++ [clamp old.getLast? snapshot]
  { history with entries := history.entries.insert entity (lastOf history.capacity extended) }

/-- Drops the entities that a test rejects, and tells how many they were. -/
def retain (history : History) (keep : String → Bool) : History × Nat :=
  let kept := history.entries.filter fun entity _ => keep entity
  ({ history with entries := kept }, history.entries.size - kept.size)

/-- Appending under one entity changes the list of that entity alone. -/
theorem all_append (history : History) (entity other : String) (snapshot : Snapshot) :
    (history.append entity snapshot).all other =
      if other = entity then
        lastOf history.capacity
          (history.all entity ++ [clamp (history.all entity).getLast? snapshot])
      else history.all other := by
  unfold append all
  rw [Table.find?_insert]
  by_cases same : other = entity <;> simp [same]

/-- Retaining keeps the lists of the entities that pass the test. -/
theorem all_retain (history : History) (keep : String → Bool) (entity : String) :
    (history.retain keep).1.all entity = if keep entity then history.all entity else [] := by
  unfold retain all
  rw [Table.find?_filter]
  cases history.entries.find? entity <;> cases keep entity <;> simp [Option.filter]

end History

end StorageTrace
