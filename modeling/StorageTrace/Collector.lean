import StorageTrace.Correlator
import StorageTrace.Directory
import StorageTrace.Window

/-! # Collecting operations

The collector charges each event to the owner of its cgroup before it is correlated, and records the
operations that are completed in a window. Whom an event is charged to depends on the index at that
moment alone, so a start keeps its entity when the index changes later.
-/

namespace StorageTrace

/-- Correlation together with the index that attributes events. -/
structure Collector where
  correlator : Correlator
  index : OwnerIndex := {}

namespace OwnerIndex

/-- The event with the owner of its cgroup filled in. An event that names an entity is left alone, and
cgroup zero has no owner. -/
def assign (index : OwnerIndex) (event : Event) : Event :=
  if event.entity.isNone && event.cgroup ≠ 0 then
    { event with entity := index.resolve event.cgroup }
  else event

end OwnerIndex

namespace Collector

/-- Attributes and correlates one event. -/
def observe (collector : Collector) (event : Event) : Collector × Option Operation :=
  let (correlator, operation) := collector.correlator.observe (collector.index.assign event)
  ({ collector with correlator }, operation)

/-- Takes in one event and records the operation that it completes. -/
def process (collector : Collector) (window : Window) (event : Event) :
    Collector × Window × Option Operation :=
  let (collector, operation) := collector.observe event
  (collector, window.recordAll operation.toList, operation)

/-- Drops the starts that have waited too long, and tells how many they were. -/
def sweep (collector : Collector) : Collector × Nat :=
  let (correlator, dropped) := collector.correlator.sweep
  ({ collector with correlator }, dropped)

/-- Replaces the index by that of a listing. -/
def refresh (collector : Collector) (listed : List EntityInfo) : Collector :=
  { collector with index := OwnerIndex.ofListing listed }

/-- The outcomes counted so far, and the collector with its counts back at zero. -/
def drain (collector : Collector) : OutcomeCounts × Collector :=
  let (counts, correlator) := collector.correlator.drain
  (counts, { collector with correlator })

end Collector

end StorageTrace
