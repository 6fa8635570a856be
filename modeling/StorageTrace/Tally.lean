import StorageTrace.Event
import StorageTrace.Table

/-! # Intake tallies

How many events each probe has reported, and how many bytes they named, since the last reading.
Both counts are words and wrap.
-/

namespace StorageTrace

/-- The events and bytes of one probe. -/
structure ProbeCount where
  events : UInt64 := 0
  bytes : UInt64 := 0
  deriving DecidableEq, Repr, Inhabited

/-- The counts of the probes that have reported. -/
structure Tally where
  counts : Table Probe ProbeCount := Table.empty

namespace Tally

def count (tally : Tally) (probe : Probe) : ProbeCount := (tally.counts.find? probe).getD {}

/-- Counts one event. -/
def record (tally : Tally) (event : Event) : Tally :=
  let old := tally.count event.probe
  ⟨tally.counts.insert event.probe
    { events := old.events + 1, bytes := old.bytes + event.bytes }⟩

/-- The probes that have events, in order of wire codes, and the tally from which to go on. -/
def drain (tally : Tally) : List (Probe × ProbeCount) × Tally :=
  (Probe.all.filterMap fun probe =>
    let count := tally.count probe
    if count.events = 0 then none else some (probe, count), {})

/-- Recording raises the count of the event's probe and no other. -/
theorem count_record (tally : Tally) (event : Event) (probe : Probe) :
    (tally.record event).count probe =
      if probe = event.probe then
        { events := (tally.count probe).events + 1
          bytes := (tally.count probe).bytes + event.bytes }
      else tally.count probe := by
  unfold record count
  rw [Table.find?_insert]
  by_cases same : probe = event.probe <;> simp [same]

end Tally

end StorageTrace
