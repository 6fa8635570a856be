import StorageTrace.Collector

/-! # Windows shared by the collector and the cycle

The collector takes hold of the window in use once for a batch of events and records into it until it
lets go, while a cycle may put a new window in its place. So windows are shared by reference: a window
is known by its place in the order in which the windows came into use, and the cell holds the place of
the one in use. The totals of a window are read only when it is no longer in use and no batch holds it.
-/

namespace StorageTrace

/-- What the collector and the cycle share, with the totals read and the operations emitted so far. -/
structure Rotation where
  collector : Collector
  windows : List Window
  cell : Cell Nat
  held : Option Nat := none
  readings : List (Nat × List (String × EntityTotals)) := []
  emitted : List Operation := []

namespace Rotation

/-- A collector with a first window in use. -/
def start (collector : Collector) (opened : Duration) : Rotation :=
  { collector, windows := [({ opened } : Window)], cell := ({} : Cell Nat).store 0 }

/-- One step of the collector or of the cycle. -/
inductive Act where
  /-- A batch takes hold of the window in use. -/
  | load
  /-- The batch takes in one event. -/
  | process (event : Event)
  /-- The batch lets go of its window. -/
  | release
  | sweep
  | refresh (listed : List EntityInfo)
  /-- An empty window comes into use. -/
  | rotate (opened : Duration)
  /-- The totals of a window that has been rotated out and released are read. -/
  | read (place : Nat)

/-- The event goes through the collector and into the window at a place. -/
def processInto (rotation : Rotation) (place : Nat) (window : Window) (event : Event) : Rotation :=
  let (collector, window, operation) := rotation.collector.process window event
  { rotation with
    collector
    windows := rotation.windows.set place window
    emitted := rotation.emitted ++ operation.toList }

/-- The state after a step, if the step is possible. -/
def step? (rotation : Rotation) : Act → Option Rotation
  | .load =>
    if rotation.held.isSome then none
    else rotation.cell.current.map fun place => { rotation with held := some place }
  | .process event =>
    rotation.held.bind fun place =>
      (rotation.windows[place]?).map fun window => rotation.processInto place window event
  | .release => rotation.held.map fun _ => { rotation with held := none }
  | .sweep => some { rotation with collector := rotation.collector.sweep.1 }
  | .refresh listed => some { rotation with collector := rotation.collector.refresh listed }
  | .rotate opened =>
    some
      { rotation with
        windows := rotation.windows ++ [({ opened } : Window)]
        cell := (rotation.cell.swap rotation.windows.length).2 }
  | .read place =>
    if rotation.cell.current = some place ∨ rotation.held = some place then none
    else
      (rotation.windows[place]?).map fun window =>
        { rotation with readings := rotation.readings ++ [(place, window.totals)] }

/-- The state after some steps, if all of them are possible. -/
def run? : Rotation → List Act → Option Rotation
  | rotation, [] => some rotation
  | rotation, act :: rest => (rotation.step? act).bind fun next => next.run? rest

/-- The window in use. -/
def inUse? (rotation : Rotation) : Option Window :=
  rotation.cell.current.bind fun place => rotation.windows[place]?

/-- What every possible step preserves holds after every run. -/
theorem run?_preserves {holds : Rotation → Prop}
    (step : ∀ rotation act next, holds rotation → rotation.step? act = some next → holds next)
    {rotation target : Rotation} {acts : List Act} (initial : holds rotation)
    (ran : rotation.run? acts = some target) : holds target := by
  induction acts generalizing rotation with
  | nil => cases ran; exact initial
  | cons act rest ih =>
    obtain ⟨next, stepped, remaining⟩ := Option.bind_eq_some_iff.1 ran
    exact ih (step _ _ _ initial stepped) remaining

end Rotation

end StorageTrace
