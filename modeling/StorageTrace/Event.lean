import StorageTrace.Probe

/-! # Events and operations

An event is one report of a probe. An operation is a stage whose two ends have both been seen.
-/

namespace StorageTrace

/-- One report of a probe. The entity is filled in only once the event has been attributed. -/
structure Event where
  timestamp : UInt64 := 0
  pid : UInt32 := 0
  tid : UInt32 := 0
  cgroup : UInt64 := 0
  probe : Probe
  direction : Direction := .read
  handle : UInt64 := 0
  bytes : UInt64 := 0
  entity : Option String := none
  deriving DecidableEq, Repr, Inhabited

/-- A finished stage of a request, charged to an entity. Times are in nanoseconds. -/
structure Operation where
  entity : String
  direction : Direction
  stage : Stage
  duration : UInt64 := 0
  bytes : UInt64 := 0
  completedAt : UInt64 := 0
  deriving DecidableEq, Repr, Inhabited

namespace Operation

/-- The slot that an operation is charged to. -/
def slot (operation : Operation) : Slot := Slot.ofStage operation.stage operation.direction

end Operation

end StorageTrace
