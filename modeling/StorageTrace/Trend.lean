import StorageTrace.Snapshot

/-! # Trends

A trend compares the newest retained snapshot with the oldest of those, counted back from the newest
without a gap, that lie within a window of time; where not even the newest lies within the window,
with the oldest of all.
-/

namespace StorageTrace

/-- Where combined latency has been heading. -/
inductive TrendDirection where
  | increased
  | decreased
  | stable
  deriving DecidableEq, Repr, Inhabited

namespace TrendDirection

def name : TrendDirection → String
  | .increased => "increased"
  | .decreased => "decreased"
  | .stable => "stable"

end TrendDirection

/-- The change of combined latency between two snapshots. -/
structure Trend where
  direction : TrendDirection
  changePercent : Float
  oldLatency : UInt64
  newLatency : UInt64
  deriving Inhabited

namespace Trend

/-- The start of the window, or the epoch where no clock can show it. -/
def boundary (now : Instant) (window : Duration) : Instant :=
  (now.before? window).getD Instant.epoch

/-- The snapshot that the newest one is compared with. -/
def baseline? (history : List Snapshot) (boundary : Instant) : Option Snapshot :=
  ((history.reverse.takeWhile fun snapshot =>
    decide (boundary.nanos ≤ snapshot.timestamp.nanos)).getLast?).or history.head?

/-- The change from one latency to another. From zero any rise counts as a hundred percent. -/
def compare (oldLatency newLatency : UInt64) (threshold : Float) : Trend :=
  if oldLatency = 0 then
    if newLatency = 0 then ⟨.stable, 0.0, oldLatency, newLatency⟩
    else ⟨.increased, 100.0, oldLatency, newLatency⟩
  else
    let change :=
      (newLatency.toFloat - oldLatency.toFloat) / oldLatency.toFloat * 100.0
    let direction :=
      if threshold < change then .increased
      else if change < -threshold then .decreased
      else .stable
    ⟨direction, change, oldLatency, newLatency⟩

/-- The trend of a history, which needs two snapshots. -/
def ofHistory? (history : List Snapshot) (window : Duration) (now : Instant)
    (threshold : Float) : Option Trend :=
  if history.length < 2 then none
  else do
    let latest ← history.getLast?
    let old ← baseline? history (boundary now window)
    return compare old.combinedLatency latest.combinedLatency threshold

end Trend

end StorageTrace
