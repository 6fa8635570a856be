import StorageTrace.Binary64
import StorageTrace.Time

/-! # Snapshots

A snapshot holds what one cycle found out about one entity: the last latency of each slot in
nanoseconds, and rates per second. How doubles are added is given.
-/

namespace StorageTrace

/-- One entity's figures for one cycle. -/
structure Snapshot where
  entity : String
  namespaceName : String := "default"
  readLatency : UInt64 := 0
  writeLatency : UInt64 := 0
  queueLatency : UInt64 := 0
  diskLatency : UInt64 := 0
  networkLatency : UInt64 := 0
  readRate : Double := 0
  writeRate : Double := 0
  readThroughput : Double := 0
  writeThroughput : Double := 0
  timestamp : Instant := Instant.epoch
  deriving Inhabited

namespace Snapshot

/-- Read and write latency together, at most the greatest word. -/
def combinedLatency (snapshot : Snapshot) : UInt64 :=
  UInt64.ofNat (min (snapshot.readLatency.toNat + snapshot.writeLatency.toNat) (UInt64.size - 1))

/-- Operations of both directions per second. -/
def combinedRate (add : Double → Double → Double) (snapshot : Snapshot) : Double :=
  add snapshot.readRate snapshot.writeRate

/-- Bytes of both directions per second. -/
def combinedThroughput (add : Double → Double → Double) (snapshot : Snapshot) : Double :=
  add snapshot.readThroughput snapshot.writeThroughput

end Snapshot

end StorageTrace
