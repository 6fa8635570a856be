import StorageTrace.Event
import StorageTrace.Table
import StorageTrace.Time

/-! # Windows

A window sums the operations recorded in it, by entity and by slot. Counts and sums are words and
wrap. Beside the sums a slot keeps the duration of the operation that completed last by its own
time stamp, so a late arrival never displaces a newer figure.
-/

namespace StorageTrace

/-- The sums of one slot. -/
structure SlotTotals where
  operations : UInt64 := 0
  bytes : UInt64 := 0
  latencySum : UInt64 := 0
  lastLatency : UInt64 := 0
  deriving DecidableEq, Repr, Inhabited

/-- The sums of one slot together with the latest completion time recorded in it. -/
structure SlotCounter where
  totals : SlotTotals := {}
  lastCompleted : UInt64 := 0
  deriving DecidableEq, Repr, Inhabited

namespace SlotCounter

/-- Counts one completion. Of completions at the same time the later recorded one is the last. -/
def record (counter : SlotCounter) (duration bytes completedAt : UInt64) : SlotCounter :=
  let old := counter.totals
  let newest := counter.lastCompleted ≤ completedAt
  { totals :=
      { operations := old.operations + 1
        bytes := old.bytes + bytes
        latencySum := old.latencySum + duration
        lastLatency := if newest then duration else old.lastLatency }
    lastCompleted := if newest then completedAt else counter.lastCompleted }

/-- Counts one operation. -/
def recordOperation (counter : SlotCounter) (operation : Operation) : SlotCounter :=
  counter.record operation.duration operation.bytes operation.completedAt

end SlotCounter

/-- The sums of one entity. -/
abbrev EntityTotals := PerSlot SlotTotals

/-- The sums of the entities that completed anything since the window was opened, and the clock then. -/
structure Window where
  opened : Duration := ⟨0⟩
  counters : Table String (PerSlot SlotCounter) := Table.empty

namespace Window

/-- The counters of an entity; an entity that completed nothing has zeros. -/
def countersOf (window : Window) (entity : String) : PerSlot SlotCounter :=
  (window.counters.find? entity).getD (PerSlot.fill {})

/-- Adds one operation to its entity and slot. -/
def record (window : Window) (operation : Operation) : Window :=
  { window with
    counters := window.counters.insert operation.entity
      ((window.countersOf operation.entity).modify operation.slot
        (·.recordOperation operation)) }

def recordAll (window : Window) (operations : List Operation) : Window :=
  operations.foldl record window

def entityCount (window : Window) : Nat := window.counters.size

/-- The sums of every entity, in ascending order of names. -/
def totals (window : Window) : List (String × EntityTotals) :=
  window.counters.sorted.map fun entry => (entry.1, entry.2.map SlotCounter.totals)

/-- Recording raises the counters of the operation's entity and slot and no others. -/
theorem countersOf_record (window : Window) (operation : Operation) (entity : String) (slot : Slot) :
    ((window.record operation).countersOf entity).get slot =
      if entity = operation.entity ∧ slot = operation.slot then
        ((window.countersOf entity).get slot).recordOperation operation
      else (window.countersOf entity).get slot := by
  unfold record countersOf
  rw [Table.find?_insert]
  by_cases same : entity = operation.entity
  · subst same
    simp [PerSlot.get_modify]
  · simp [same]

end Window

/-- A place for the window in use, which may be empty. It holds the window itself or a reference. -/
structure Cell (ω : Type) where
  current : Option ω := none

namespace Cell

variable {ω : Type}

def store (_ : Cell ω) (window : ω) : Cell ω := ⟨some window⟩

/-- Puts a new window in place and gives the old one. -/
def swap (cell : Cell ω) (window : ω) : Option ω × Cell ω := (cell.current, ⟨some window⟩)

/-- Takes the window out. -/
def take (cell : Cell ω) : Option ω × Cell ω := (cell.current, ⟨none⟩)

/-- Adds an operation to the window in use; without one it is lost. -/
def record (cell : Cell Window) (operation : Operation) : Cell Window :=
  ⟨cell.current.map (·.record operation)⟩

end Cell

/-- A place that holds a window itself. -/
abbrev WindowCell := Cell Window

end StorageTrace
