import StorageTrace.Binary64
import StorageTrace.Names
import StorageTrace.Table

/-! # Health metrics

The metrics that the program exports, a registry of their values, and the text in which they are
exposed. Families are in ascending order of their names and the series of a family in ascending order
of their label values. A family with a label shows only the series that have been touched.
-/

namespace StorageTrace

/-- Something that is measured. -/
inductive Metric where
  | eventsReceived
  | eventsDropped
  | eventParseErrors
  | eventsByProbe
  | sourceErrors
  | eventChannelCapacity
  | operationsCompleted
  | completionsUnmatched
  | startsExpired
  | startsOverflowed
  | startsReplaced
  | operationsUnattributed
  | operationsSkewed
  | pendingStarts
  | cyclesTotal
  | cyclesSkipped
  | cycleDuration
  | directoryRefreshDuration
  | entitiesTracked
  | anomaliesActive
  | entitiesByBottleneck
  deriving DecidableEq, Repr, Inhabited

namespace Metric

def all : List Metric :=
  [.eventsReceived, .eventsDropped, .eventParseErrors, .eventsByProbe, .sourceErrors,
    .eventChannelCapacity, .operationsCompleted, .completionsUnmatched, .startsExpired,
    .startsOverflowed, .startsReplaced, .operationsUnattributed, .operationsSkewed, .pendingStarts,
    .cyclesTotal, .cyclesSkipped, .cycleDuration, .directoryRefreshDuration, .entitiesTracked,
    .anomaliesActive, .entitiesByBottleneck]

/-- The name of the family. -/
def name : Metric → String
  | .eventsReceived => "ioeye_events_received_total"
  | .eventsDropped => "ioeye_events_dropped_total"
  | .eventParseErrors => "ioeye_event_parse_errors_total"
  | .eventsByProbe => "ioeye_events_by_probe_total"
  | .sourceErrors => "ioeye_source_errors_total"
  | .eventChannelCapacity => "ioeye_event_channel_capacity"
  | .operationsCompleted => "ioeye_operations_completed_total"
  | .completionsUnmatched => "ioeye_completions_unmatched_total"
  | .startsExpired => "ioeye_starts_expired_total"
  | .startsOverflowed => "ioeye_starts_overflowed_total"
  | .startsReplaced => "ioeye_starts_replaced_total"
  | .operationsUnattributed => "ioeye_operations_unattributed_total"
  | .operationsSkewed => "ioeye_operations_skewed_total"
  | .pendingStarts => "ioeye_pending_starts"
  | .cyclesTotal => "ioeye_cycles_total"
  | .cyclesSkipped => "ioeye_cycles_skipped_total"
  | .cycleDuration => "ioeye_cycle_duration_seconds"
  | .directoryRefreshDuration => "ioeye_directory_refresh_duration_seconds"
  | .entitiesTracked => "ioeye_entities_tracked"
  | .anomaliesActive => "ioeye_anomalies_active"
  | .entitiesByBottleneck => "ioeye_entities_by_bottleneck"

def help : Metric → String
  | .eventsReceived => "Total events received from the event source."
  | .eventsDropped => "Total events dropped because the collector channel was full."
  | .eventParseErrors => "Total event parse errors by error type."
  | .eventsByProbe => "Total events received by probe kind."
  | .sourceErrors => "Total event source errors other than parse errors."
  | .eventChannelCapacity => "Capacity of the collector event channel."
  | .operationsCompleted => "Total operations completed by stage."
  | .completionsUnmatched => "Total completions with no pending start."
  | .startsExpired => "Total pending starts dropped after the horizon."
  | .startsOverflowed => "Total starts dropped because the pending table was full."
  | .startsReplaced => "Total starts that replaced an earlier start with the same key."
  | .operationsUnattributed => "Total matched operations with no entity."
  | .operationsSkewed => "Total matched operations completing before their start."
  | .pendingStarts => "Starts awaiting completion."
  | .cyclesTotal => "Total aggregation cycles applied."
  | .cyclesSkipped => "Total aggregation cycles skipped after a directory failure."
  | .cycleDuration => "Time to aggregate and analyze one cycle."
  | .directoryRefreshDuration => "Time to list monitored entities."
  | .entitiesTracked => "Entities with at least one snapshot."
  | .anomaliesActive => "Entities whose latest snapshot is anomalous."
  | .entitiesByBottleneck => "Entities by bottleneck type."

/-- How the values of a metric behave; a histogram has the upper bounds of its buckets. -/
inductive Kind where
  | counter
  | gauge
  | histogram (bounds : List Float)

def kind : Metric → Kind
  | .eventChannelCapacity | .pendingStarts | .entitiesTracked | .anomaliesActive
  | .entitiesByBottleneck => .gauge
  | .cycleDuration => .histogram [0.0001, 0.0005, 0.001, 0.005, 0.01, 0.05, 0.1, 0.5]
  | .directoryRefreshDuration => .histogram [0.001, 0.005, 0.01, 0.05, 0.1, 0.5, 1.0]
  | _ => .counter

/-- The name of the label that tells the series of a family apart, if it has any. -/
def label? : Metric → Option String
  | .eventParseErrors => some "error_type"
  | .eventsByProbe => some "probe"
  | .operationsCompleted => some "stage"
  | .entitiesByBottleneck => some "bottleneck"
  | _ => none

end Metric

/-- What a histogram has seen: a count for each bucket, the sum and the number of observations. -/
structure Histogram where
  buckets : List Nat
  sum : Float := 0.0
  count : Nat := 0

namespace Histogram

def empty (bounds : List Float) : Histogram := { buckets := bounds.map fun _ => 0 }

/-- Raises the first count whose bound is not below the value; above all bounds none is raised. -/
def raiseFirst (value : Float) : List Float → List Nat → List Nat
  | bound :: bounds, count :: counts =>
    if value ≤ bound then (count + 1) :: counts else count :: raiseFirst value bounds counts
  | _, counts => counts

def observe (histogram : Histogram) (bounds : List Float) (value : Float) : Histogram :=
  { buckets := raiseFirst value bounds histogram.buckets
    sum := histogram.sum + value
    count := histogram.count + 1 }

/-- The running totals of a list. -/
def cumulate (total : Nat) : List Nat → List Nat
  | [] => []
  | count :: rest => (total + count) :: cumulate (total + count) rest

end Histogram

/-- The values of the metrics. A series is a metric with the value of its label, empty without one. -/
structure Registry (α : Type) where
  values : Table (Metric × String) α := Table.empty
  histograms : Table Metric Histogram := Table.empty

namespace Registry

variable {α : Type}

instance : Inhabited (Registry α) := ⟨{}⟩

/-- The value of a series, zero if it has not been touched. -/
def value [OfNat α 0] (registry : Registry α) (metric : Metric) (label : String := "") : α :=
  (registry.values.find? (metric, label)).getD 0

/-- Sets a gauge. -/
def set (registry : Registry α) (metric : Metric) (label : String) (value : α) : Registry α :=
  { registry with values := registry.values.insert (metric, label) value }

/-- Adds to a counter. -/
def add [OfNat α 0] [Add α] (registry : Registry α) (metric : Metric) (label : String)
    (amount : α) : Registry α :=
  registry.set metric label (registry.value metric label + amount)

/-- Takes an observation into a histogram. -/
def observe (registry : Registry α) (metric : Metric) (value : Float) : Registry α :=
  match metric.kind with
  | .histogram bounds =>
    let old := (registry.histograms.find? metric).getD (Histogram.empty bounds)
    { registry with histograms := registry.histograms.insert metric (old.observe bounds value) }
  | _ => registry

/-- The label values of a metric's series. -/
def labels (registry : Registry α) (metric : Metric) : List String :=
  Names.ascending
    (registry.values.keys.filterMap fun key => if key.1 = metric then some key.2 else none)

theorem value_set [OfNat α 0] (registry : Registry α) (metric other : Metric)
    (label otherLabel : String) (amount : α) :
    (registry.set metric label amount).value other otherLabel =
      if other = metric ∧ otherLabel = label then amount else registry.value other otherLabel := by
  unfold set value
  rw [Table.find?_insert]
  by_cases same : other = metric ∧ otherLabel = label
  · simp [same]
  · rw [if_neg same, if_neg fun equal => same (Prod.mk.inj equal)]

/-! ## Text -/

/-- A label value with backslashes, line ends and quotes escaped. -/
def escape (label : String) : String :=
  String.ofList (label.toList.flatMap fun c =>
    if c = '\\' then ['\\', '\\']
    else if c = '\n' then ['\\', 'n']
    else if c = '\x22' then ['\\', '\x22']
    else [c])

/-- One sample line. -/
def sample (name : String) (labels : List (String × String)) (value : String) : String :=
  let pairs := labels.map fun pair => pair.1 ++ "=\"" ++ escape pair.2 ++ "\""
  let braced := if pairs.isEmpty then "" else "\x7b" ++ ",".intercalate pairs ++ "\x7d"
  name ++ braced ++ " " ++ value

/-- The lines of a histogram. -/
def histogramLines (name : String) (bounds : List Float) (histogram : Histogram) : List String :=
  let upTo := Histogram.cumulate 0 histogram.buckets
  let buckets := (bounds.zip upTo).map fun (bound, count) =>
    sample (name ++ "_bucket") [("le", Binary64.text bound)] (toString count)
  buckets ++
    [sample (name ++ "_bucket") [("le", "+Inf")] (toString histogram.count),
      sample (name ++ "_sum") [] (Binary64.text histogram.sum),
      sample (name ++ "_count") [] (toString histogram.count)]

/-- The sample lines of a family. -/
def samples [OfNat α 0] (text : α → String) (registry : Registry α) (metric : Metric) :
    List String :=
  match metric.kind with
  | .histogram bounds =>
    histogramLines metric.name bounds
      ((registry.histograms.find? metric).getD (Histogram.empty bounds))
  | _ =>
    match metric.label? with
    | none => [sample metric.name [] (text (registry.value metric))]
    | some labelName =>
      (registry.labels metric).map fun label =>
        sample metric.name [(labelName, label)] (text (registry.value metric label))

/-- The word for a kind in the text. -/
def kindName : Metric.Kind → String
  | .counter => "counter"
  | .gauge => "gauge"
  | .histogram _ => "histogram"

/-- The lines of a family, none if it has no series. -/
def familyLines [OfNat α 0] (text : α → String) (registry : Registry α) (metric : Metric) :
    List String :=
  let lines := registry.samples text metric
  if lines.isEmpty then []
  else
    ("# HELP " ++ metric.name ++ " " ++ metric.help) ::
      ("# TYPE " ++ metric.name ++ " " ++ kindName metric.kind) :: lines

/-- The metrics in ascending order of their names. -/
def families : List Metric :=
  Metric.all.mergeSort fun left right => decide (left.name ≤ right.name)

/-- All lines of the exposed text. -/
def render [OfNat α 0] (text : α → String) (registry : Registry α) : List String :=
  families.flatMap (registry.familyLines text)

/-- The sample lines of counters and gauges alone. -/
def renderSeries [OfNat α 0] (text : α → String) (registry : Registry α) : List String :=
  families.flatMap fun metric =>
    match metric.kind with
    | .histogram _ => []
    | _ => registry.samples text metric

end Registry

/-- What the metrics server answers to a request for a path. -/
inductive Page where
  | found (lines : List String)
  | notFound
  deriving DecidableEq, Repr, Inhabited

namespace Page

/-- The metrics under one path, a sign of life under another; a query is passed over. -/
def ofPath (metrics : List String) (path : String) : Page :=
  let target := String.ofList (path.toList.takeWhile (· ≠ '?'))
  if target = "/metrics" then .found metrics
  else if target = "/healthz" then .found ["ok"]
  else .notFound

end Page

end StorageTrace
