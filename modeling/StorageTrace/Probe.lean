/-! # Probes, stages and slots

A probe marks one point in the life of a storage request. Each probe starts or finishes stages, a
finished stage is charged to a slot, and a probe is known by a name and by a wire code.
-/

namespace StorageTrace

/-- Whether a request moves data out of storage or into it. -/
inductive Direction where
  | read
  | write
  deriving DecidableEq, Repr, Inhabited

namespace Direction

def name : Direction → String
  | .read => "read"
  | .write => "write"

/-- The byte that carries a direction on the wire. -/
def code : Direction → UInt8
  | .read => 0
  | .write => 1

def ofCode? (raw : UInt8) : Option Direction :=
  if raw = 0 then some .read else if raw = 1 then some .write else none

theorem ofCode?_code (direction : Direction) : ofCode? direction.code = some direction := by
  cases direction <;> rfl

end Direction

/-- A part of a request's life that takes time of its own. -/
inductive Stage where
  | syscall
  | queue
  | device
  | remote
  deriving DecidableEq, Repr, Inhabited

namespace Stage

def all : List Stage := [.syscall, .queue, .device, .remote]

def name : Stage → String
  | .syscall => "syscall"
  | .queue => "queue"
  | .device => "device"
  | .remote => "remote"

/-- The place of a stage in listings. -/
def index : Stage → Nat
  | .syscall => 0
  | .queue => 1
  | .device => 2
  | .remote => 3

/-- A stage stands at its place. -/
@[simp] theorem getElem?_all_index (stage : Stage) : all[stage.index]? = some stage := by
  cases stage <;> rfl

end Stage

/-- The two ends of a stage. -/
inductive Edge where
  | start
  | finish
  deriving DecidableEq, Repr, Inhabited

namespace Edge

def name : Edge → String
  | .start => "start"
  | .finish => "end"

end Edge

/-- The five figures kept for an entity. -/
inductive Slot where
  | read
  | write
  | queue
  | disk
  | network
  deriving DecidableEq, Repr, Inhabited

namespace Slot

def all : List Slot := [.read, .write, .queue, .disk, .network]

def name : Slot → String
  | .read => "read"
  | .write => "write"
  | .queue => "queue"
  | .disk => "disk"
  | .network => "network"

/-- The place of a slot in listings. -/
def index : Slot → Nat
  | .read => 0
  | .write => 1
  | .queue => 2
  | .disk => 3
  | .network => 4

/-- System calls are split by direction; every other stage has one slot. -/
def ofStage : Stage → Direction → Slot
  | .syscall, .read => .read
  | .syscall, .write => .write
  | .queue, _ => .queue
  | .device, _ => .disk
  | .remote, _ => .network

end Slot

/-- One value for each slot. -/
structure PerSlot (α : Type) where
  read : α
  write : α
  queue : α
  disk : α
  network : α
  deriving DecidableEq, Repr, Inhabited

namespace PerSlot

variable {α β : Type}

def fill (value : α) : PerSlot α := ⟨value, value, value, value, value⟩

def get (values : PerSlot α) : Slot → α
  | .read => values.read
  | .write => values.write
  | .queue => values.queue
  | .disk => values.disk
  | .network => values.network

/-- The values of a function on slots. -/
def ofFn (f : Slot → α) : PerSlot α := ⟨f .read, f .write, f .queue, f .disk, f .network⟩

/-- Changes the value of one slot. -/
def modify (values : PerSlot α) (slot : Slot) (f : α → α) : PerSlot α :=
  ofFn fun other => if other = slot then f (values.get other) else values.get other

def map (f : α → β) (values : PerSlot α) : PerSlot β := ofFn fun slot => f (values.get slot)

def toList (values : PerSlot α) : List α := Slot.all.map values.get

@[simp] theorem get_ofFn (f : Slot → α) (slot : Slot) : (ofFn f).get slot = f slot := by
  cases slot <;> rfl

@[simp] theorem get_fill (value : α) (slot : Slot) : (fill value).get slot = value := by
  cases slot <;> rfl

@[simp] theorem get_map (f : α → β) (values : PerSlot α) (slot : Slot) :
    (values.map f).get slot = f (values.get slot) := by
  simp [map]

theorem get_modify (values : PerSlot α) (slot other : Slot) (f : α → α) :
    (values.modify slot f).get other =
      if other = slot then f (values.get other) else values.get other := by
  simp [modify]

end PerSlot

/-- A point in the life of a request that reports an event. -/
inductive Probe where
  | blockInsert
  | blockIssue
  | blockComplete
  | readEntry
  | readExit
  | writeEntry
  | writeExit
  | remoteIssue
  | remoteComplete
  deriving DecidableEq, Repr, Inhabited

namespace Probe

/-- Every probe, in ascending order of wire codes. -/
def all : List Probe :=
  [.blockInsert, .blockIssue, .blockComplete, .readEntry, .readExit, .writeEntry, .writeExit,
    .remoteIssue, .remoteComplete]

def name : Probe → String
  | .blockInsert => "block_rq_insert"
  | .blockIssue => "block_rq_issue"
  | .blockComplete => "block_rq_complete"
  | .readEntry => "vfs_read_entry"
  | .readExit => "vfs_read_exit"
  | .writeEntry => "vfs_write_entry"
  | .writeExit => "vfs_write_exit"
  | .remoteIssue => "remote_issue"
  | .remoteComplete => "remote_complete"

def ofName? (name : String) : Option Probe := all.find? fun probe => probe.name = name

/-- The byte that carries a probe on the wire. -/
def code : Probe → UInt8
  | .blockInsert => 1
  | .blockIssue => 2
  | .blockComplete => 3
  | .readEntry => 4
  | .readExit => 5
  | .writeEntry => 6
  | .writeExit => 7
  | .remoteIssue => 8
  | .remoteComplete => 9

/-- The greatest code in use; zero and everything above it name no probe. -/
def maxCode : Nat := 9

def ofCode? (raw : UInt8) : Option Probe := all.find? fun probe => probe.code = raw

/-- What the probe does to the stages, in order of effect. -/
def transitions : Probe → List (Stage × Edge)
  | .blockInsert => [(.queue, .start)]
  | .blockIssue => [(.queue, .finish), (.device, .start)]
  | .blockComplete => [(.device, .finish)]
  | .readEntry => [(.syscall, .start)]
  | .readExit => [(.syscall, .finish)]
  | .writeEntry => [(.syscall, .start)]
  | .writeExit => [(.syscall, .finish)]
  | .remoteIssue => [(.remote, .start)]
  | .remoteComplete => [(.remote, .finish)]

/-- Whether the two ends of the stage are matched by the calling task and not by a handle. -/
def taskScoped : Probe → Bool
  | .readEntry | .readExit | .writeEntry | .writeExit => true
  | _ => false

/-- The direction that the probe fixes, whatever direction its record carries. -/
def impliedDirection? : Probe → Option Direction
  | .readEntry | .readExit => some .read
  | .writeEntry | .writeExit => some .write
  | _ => none

theorem ofCode?_code (probe : Probe) : ofCode? probe.code = some probe := by
  cases probe <;> rfl

end Probe

end StorageTrace
