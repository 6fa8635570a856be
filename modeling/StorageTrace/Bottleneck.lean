import StorageTrace.Snapshot

/-! # Bottlenecks

The verdict on one snapshot: the component whose latency exceeds both others, where queueing must
also exceed a threshold, or else whether reads or writes are slow for no single reason.
-/

namespace StorageTrace

/-- What dominates an entity's latency. An entity without data counts as unknown. -/
inductive Bottleneck where
  | none
  | queue
  | disk
  | network
  | unknown
  deriving DecidableEq, Repr

namespace Bottleneck

instance : Inhabited Bottleneck := ⟨.unknown⟩

/-- Every verdict, in the order of reports. -/
def all : List Bottleneck := [.none, .queue, .disk, .network, .unknown]

def name : Bottleneck → String
  | .none => "none"
  | .queue => "queue"
  | .disk => "disk"
  | .network => "network"
  | .unknown => "unknown"

end Bottleneck

/-- The latencies above which a component counts as slow. -/
structure ThresholdSettings where
  read : Duration := Duration.ofMillis 10
  write : Duration := Duration.ofMillis 20
  queue : Duration := Duration.ofMillis 5
  deriving DecidableEq, Repr, Inhabited

/-- The same latencies as words of nanoseconds. -/
structure Thresholds where
  read : UInt64
  write : UInt64
  queue : UInt64
  deriving DecidableEq, Repr, Inhabited

namespace Thresholds

/-- Durations beyond the greatest word become that word. -/
def ofSettings (settings : ThresholdSettings) : Thresholds :=
  { read := settings.read.saturated
    write := settings.write.saturated
    queue := settings.queue.saturated }

end Thresholds

namespace Bottleneck

/-- The first verdict that fits: a slow queue that leads, a leading disk, a leading network, slow
reads or writes, nothing. -/
def classify (snapshot : Snapshot) (thresholds : Thresholds) : Bottleneck :=
  let queue := snapshot.queueLatency
  let disk := snapshot.diskLatency
  let network := snapshot.networkLatency
  if thresholds.queue < queue ∧ disk < queue ∧ network < queue then .queue
  else if queue < disk ∧ network < disk then .disk
  else if queue < network ∧ disk < network then .network
  else if thresholds.read < snapshot.readLatency ∨ thresholds.write < snapshot.writeLatency then
    .unknown
  else .none

end Bottleneck

end StorageTrace
