import StorageTrace.Snapshot

/-! # Anomalies

The latest read and write latencies are scored against the mean of all retained ones, themselves
included, in units of the standard deviation or of the variance. Sums run from the oldest on.
-/

namespace StorageTrace

/-- The unit of a score. -/
inductive Denominator where
  | stdDev
  | variance
  deriving DecidableEq, Repr, Inhabited

namespace Denominator

def name : Denominator → String
  | .stdDev => "std_dev"
  | .variance => "variance"

def ofName? : String → Option Denominator
  | "std_dev" => some .stdDev
  | "variance" => some .variance
  | _ => none

end Denominator

/-- When a score counts as an anomaly. -/
structure AnomalySettings where
  threshold : Float := 2.0
  minHistory : Nat := 10
  denominator : Denominator := .stdDev
  deriving Inhabited

namespace Anomaly

/-- The sum of a list of doubles from its head on. -/
def sum (values : List Float) : Float := values.foldl (· + ·) 0.0

/-- The mean of a list. -/
def mean (values : List Float) : Float := sum values / values.length.toUInt64.toFloat

/-- The mean square distance from the mean. -/
def variance (values : List Float) : Float :=
  let centre := mean values
  mean (values.map fun value => (value - centre) * (value - centre))

/-- The last value's distance from the mean; zero where the unit is zero or not finite. -/
def score (values : List UInt64) (denominator : Denominator) : Float :=
  match values.getLast? with
  | none => 0.0
  | some latest =>
    let floats := values.map UInt64.toFloat
    let spread := variance floats
    let divisor :=
      match denominator with
      | .stdDev => spread.sqrt
      | .variance => spread
    if divisor == 0.0 || !divisor.isFinite then 0.0 else (latest.toFloat - mean floats) / divisor

/-- Whether the latest snapshot of a history is out of line. A short history never is. -/
def detect (history : List Snapshot) (settings : AnomalySettings) : Bool :=
  if history.isEmpty || history.length < settings.minHistory then false
  else
    settings.threshold < score (history.map (·.readLatency)) settings.denominator ||
      settings.threshold < score (history.map (·.writeLatency)) settings.denominator

end Anomaly

end StorageTrace
