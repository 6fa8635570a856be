import StorageTrace.Anomaly
import StorageTrace.Bottleneck
import StorageTrace.History
import StorageTrace.Ranking
import StorageTrace.Trend

/-! # Analysis

Once a cycle the new snapshots are appended to the history and judged, and the results are published
as one view. Entities outside a cycle keep their results until they are retired.
-/

namespace StorageTrace

/-- How snapshots are kept and judged. -/
structure AnalyzerSettings where
  historyCapacity : Nat := 100
  trendWindow : Duration := Duration.ofSeconds 300
  trendChangePercent : Float := 10.0
  thresholds : ThresholdSettings := {}
  anomaly : AnomalySettings := {}
  deriving Inhabited

/-- How many entities a view holds, and of which sorts. -/
structure Summary where
  cycle : Nat
  entities : Nat
  anomalies : Nat
  bottlenecks : List (Bottleneck × Nat)
  deriving DecidableEq, Repr, Inhabited

/-- The results of the cycles so far. -/
structure View where
  cycle : Nat := 0
  latest : Table String Snapshot := Table.empty
  bottlenecks : Table String Bottleneck := Table.empty
  anomalies : Table String Bool := Table.empty

namespace View

def latest? (view : View) (entity : String) : Option Snapshot := view.latest.find? entity

/-- The verdict on an entity, unknown for one that the view does not hold. -/
def bottleneck (view : View) (entity : String) : Bottleneck :=
  (view.bottlenecks.find? entity).getD .unknown

/-- Whether an entity is out of line; one that the view does not hold is not. -/
def anomaly (view : View) (entity : String) : Bool := (view.anomalies.find? entity).getD false

def summary (view : View) : Summary :=
  { cycle := view.cycle
    entities := view.latest.size
    anomalies := view.anomalies.values.countP id
    bottlenecks := Bottleneck.all.map fun kind =>
      (kind, view.bottlenecks.values.countP fun found => found = kind) }

/-- Drops the results of the entities that a test rejects. -/
def retain (view : View) (keep : String → Bool) : View :=
  { view with
    latest := view.latest.filter fun entity _ => keep entity
    bottlenecks := view.bottlenecks.filter fun entity _ => keep entity
    anomalies := view.anomalies.filter fun entity _ => keep entity }

end View

/-- Why a question cannot be answered. -/
inductive AnalysisError where
  | insufficientData (entity : String) (count : Nat)
  deriving DecidableEq, Repr, Inhabited

namespace AnalysisError

def message : AnalysisError → String
  | .insufficientData entity count =>
    s!"insufficient data for {entity}: have {count} snapshots, need 2"

end AnalysisError

/-- The history and the published view. -/
structure Analyzer where
  history : History
  thresholds : Thresholds
  anomaly : AnomalySettings
  trendChangePercent : Float
  view : View := {}

namespace Analyzer

def new (settings : AnalyzerSettings) : Analyzer :=
  { history := History.new settings.historyCapacity
    thresholds := Thresholds.ofSettings settings.thresholds
    anomaly := settings.anomaly
    trendChangePercent := settings.trendChangePercent }

/-- Appends one snapshot to the history and judges its entity anew. -/
def judge (analyzer : Analyzer) (snapshot : Snapshot) : Analyzer :=
  let entity := snapshot.entity
  let history := analyzer.history.append entity snapshot
  let retained := history.all entity
  match retained.getLast? with
  | none => { analyzer with history }
  | some latest =>
    let view := analyzer.view
    { analyzer with
      history
      view := { view with
        latest := view.latest.insert entity latest
        bottlenecks := view.bottlenecks.insert entity
          (Bottleneck.classify latest analyzer.thresholds)
        anomalies := view.anomalies.insert entity (Anomaly.detect retained analyzer.anomaly) } }

/-- Takes in the snapshots of one cycle in order. -/
def applyCycle (analyzer : Analyzer) (snapshots : List Snapshot) : Analyzer :=
  snapshots.foldl judge
    { analyzer with view := { analyzer.view with cycle := analyzer.view.cycle + 1 } }

/-- Retires the entities that a test rejects and tells how many had a history. Where none had, the
view stays as it is. -/
def retain (analyzer : Analyzer) (keep : String → Bool) : Analyzer × Nat :=
  let (history, retired) := analyzer.history.retain keep
  if retired = 0 then ({ analyzer with history }, 0)
  else ({ analyzer with history, view := analyzer.view.retain keep }, retired)

/-- The trend of an entity over a window that ends now. -/
def trendAt (analyzer : Analyzer) (entity : String) (window : Duration) (now : Instant) :
    Except AnalysisError Trend :=
  let history := analyzer.history.all entity
  match Trend.ofHistory? history window now analyzer.trendChangePercent with
  | some trend => .ok trend
  | none => .error (.insufficientData entity history.length)

/-- The highest-ranked of the latest snapshots. -/
def top (analyzer : Analyzer) (add : Double → Double → Double) (count : Nat) (rankBy : RankBy) :
    List Snapshot :=
  Ranking.top add analyzer.view.latest.values count rankBy

end Analyzer

end StorageTrace
