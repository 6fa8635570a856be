import StorageTrace.Event
import StorageTrace.Table
import StorageTrace.Time

/-! # Correlating starts and finishes

A start waits in the pending table under its stage and key until a finish of the same stage and key
takes it out. The table is bounded: when it is full, starts older than the horizon are swept out
first, and if that frees nothing the new start is dropped. Ages are measured against the watermark,
the latest time seen.
-/

namespace StorageTrace

/-- What the two ends of a stage have in common: the calling task and its direction, or the handle. -/
inductive RequestKey where
  | task (tid : UInt32) (direction : Direction)
  | handle (value : UInt64)
  deriving DecidableEq, Repr, Inhabited

namespace RequestKey

def ofEvent (event : Event) : RequestKey :=
  if event.probe.taskScoped then .task event.tid event.direction else .handle event.handle

end RequestKey

/-- A start that awaits its finish. -/
structure PendingStart where
  timestamp : UInt64
  direction : Direction
  bytes : UInt64
  entity : Option String
  deriving DecidableEq, Repr, Inhabited

namespace PendingStart

def ofEvent (event : Event) : PendingStart :=
  { timestamp := event.timestamp
    direction := event.direction
    bytes := event.bytes
    entity := event.entity }

end PendingStart

/-- What became of starts and finishes. The counts are words and wrap. -/
structure OutcomeCounts where
  matched : UInt64 := 0
  unmatched : UInt64 := 0
  expired : UInt64 := 0
  overflow : UInt64 := 0
  replaced : UInt64 := 0
  unattributed : UInt64 := 0
  skewed : UInt64 := 0
  deriving DecidableEq, Repr, Inhabited

/-- The state of correlation. -/
structure Correlator where
  horizon : UInt64
  maxPending : Nat
  watermark : UInt64 := 0
  pending : Table (Stage × RequestKey) PendingStart := Table.empty
  counts : OutcomeCounts := {}

namespace Correlator

/-- An empty table with a horizon and a bound. -/
def new (horizon : Duration) (maxPending : Nat) : Correlator :=
  { horizon := horizon.saturated, maxPending }

/-- Starts before this time are too old to wait any longer. -/
def cutoff (correlator : Correlator) : UInt64 :=
  if correlator.horizon ≤ correlator.watermark then correlator.watermark - correlator.horizon else 0

/-- The pending starts that are not too old. -/
def unexpired (correlator : Correlator) : Table (Stage × RequestKey) PendingStart :=
  correlator.pending.filter fun _ start => correlator.cutoff ≤ start.timestamp

/-- Drops and counts the starts that are too old, and tells how many they were. -/
def sweep (correlator : Correlator) : Correlator × Nat :=
  let kept := correlator.unexpired
  let dropped := correlator.pending.size - kept.size
  ({ correlator with
      pending := kept
      counts := { correlator.counts with
        expired := correlator.counts.expired + UInt64.ofNat dropped } },
    dropped)

/-- Notes a start. It takes the place of a start with the same key; otherwise it needs room. -/
def start (correlator : Correlator) (stage : Stage) (event : Event) : Correlator :=
  let key := (stage, RequestKey.ofEvent event)
  let waiting := PendingStart.ofEvent event
  if correlator.pending.contains key then
    { correlator with
      pending := correlator.pending.insert key waiting
      counts := { correlator.counts with replaced := correlator.counts.replaced + 1 } }
  else
    let roomy :=
      if correlator.maxPending ≤ correlator.pending.size then correlator.sweep.1 else correlator
    if roomy.maxPending ≤ roomy.pending.size then
      { roomy with counts := { roomy.counts with overflow := roomy.counts.overflow + 1 } }
    else { roomy with pending := roomy.pending.insert key waiting }

/-- Takes the start of a finish out of the table. The pair is an operation if the finish does not
precede the start and either of them names an entity; the start's entity goes before the finish's. -/
def finish (correlator : Correlator) (stage : Stage) (event : Event) :
    Correlator × Option Operation :=
  let key := (stage, RequestKey.ofEvent event)
  let counts := correlator.counts
  match correlator.pending.find? key with
  | none => ({ correlator with counts := { counts with unmatched := counts.unmatched + 1 } }, none)
  | some waiting =>
    let taken := { correlator with pending := correlator.pending.erase key }
    if event.timestamp < waiting.timestamp then
      ({ taken with counts := { counts with skewed := counts.skewed + 1 } }, none)
    else
      match waiting.entity.or event.entity with
      | none =>
        ({ taken with counts := { counts with unattributed := counts.unattributed + 1 } }, none)
      | some entity =>
        ({ taken with counts := { counts with matched := counts.matched + 1 } },
          some
            { entity
              direction := waiting.direction
              stage
              duration := event.timestamp - waiting.timestamp
              bytes := if event.bytes ≠ 0 then event.bytes else waiting.bytes
              completedAt := event.timestamp })

/-- Applies one transition of an event. -/
def apply (event : Event) (state : Correlator × Option Operation) (transition : Stage × Edge) :
    Correlator × Option Operation :=
  match transition with
  | (stage, .start) => (state.1.start stage event, state.2)
  | (stage, .finish) =>
    let (next, operation) := state.1.finish stage event
    (next, operation.or state.2)

/-- Moves the watermark up to the time of an event. -/
def advance (correlator : Correlator) (event : Event) : Correlator :=
  { correlator with watermark := max correlator.watermark event.timestamp }

/-- Takes in one event and gives the operation that it completes, if any. -/
def observe (correlator : Correlator) (event : Event) : Correlator × Option Operation :=
  event.probe.transitions.foldl (apply event) (correlator.advance event, none)

/-- The counts so far, and the correlator with its counts back at zero. -/
def drain (correlator : Correlator) : OutcomeCounts × Correlator :=
  (correlator.counts, { correlator with counts := {} })

end Correlator

end StorageTrace
