import StorageTrace.Aggregator
import StorageTrace.Analyzer
import StorageTrace.Delivery

/-! # Configuration

The settings of every part, with their defaults, and the checks that a configuration must pass. The
checks are made in a fixed order and the first that fails is reported.
-/

namespace StorageTrace

/-- Settings of collection and of the cycles. -/
structure MonitorSettings where
  interval : Duration := Duration.ofSeconds 10
  channelCapacity : Nat := 65536
  idleLatency : IdleLatency := .retain
  defaultNamespace : String := "default"
  deriving DecidableEq, Repr, Inhabited

/-- Settings of the pending table. -/
structure CorrelatorSettings where
  pendingHorizon : Duration := Duration.ofSeconds 30
  maxPending : Nat := 10240
  deriving DecidableEq, Repr, Inhabited

/-- Settings of entity listings: the scope, the root of the cgroup tree, the named entities. -/
structure DirectorySettings where
  scope : String := ""
  cgroupRoot : String := ""
  entities : List FixedEntity := []
  deriving DecidableEq, Repr, Inhabited

/-- Settings of the event source. -/
structure SourceSettings where
  path : String := "/run/ioeye/events"
  reopen : Bool := true
  probes : List String := []
  deriving DecidableEq, Repr, Inhabited

/-- Settings of the metrics server. -/
structure HealthSettings where
  address : String := ":9090"
  deriving DecidableEq, Repr, Inhabited

/-- All settings. -/
structure Config where
  logLevel : String := "info"
  monitor : MonitorSettings := {}
  correlator : CorrelatorSettings := {}
  analyzer : AnalyzerSettings := {}
  directory : DirectorySettings := {}
  source : SourceSettings := {}
  health : HealthSettings := {}
  deriving Inhabited

/-- What is wrong with a configuration. -/
inductive ConfigError where
  | zeroInterval
  | zeroChannelCapacity
  | noDefaultNamespace
  | zeroPendingHorizon
  | zeroMaxPending
  | shortHistory
  | zeroTrendWindow
  | badTrendChange
  | badAnomalyThreshold
  | shortMinHistory
  | minHistoryExceedsCapacity (minHistory capacity : Nat)
  | namelessEntity
  | duplicateEntity (name : String)
  | unknownProbe (name : String)
  | noSourcePath
  deriving DecidableEq, Repr, Inhabited

namespace ConfigError

def message : ConfigError → String
  | .zeroInterval => "monitor.interval must be positive"
  | .zeroChannelCapacity => "monitor.event_channel_capacity must be positive"
  | .noDefaultNamespace => "monitor.default_namespace is required"
  | .zeroPendingHorizon => "correlator.pending_horizon must be positive"
  | .zeroMaxPending => "correlator.max_pending must be positive"
  | .shortHistory => "analyzer.history_capacity must be at least 2"
  | .zeroTrendWindow => "analyzer.trend_window must be positive"
  | .badTrendChange => "analyzer.trend_change_percent must be a non-negative number"
  | .badAnomalyThreshold => "analyzer.anomaly.threshold must be a positive number"
  | .shortMinHistory => "analyzer.anomaly.min_history must be at least 2"
  | .minHistoryExceedsCapacity minHistory capacity =>
    s!"analyzer.anomaly.min_history ({minHistory}) exceeds analyzer.history_capacity ({capacity})"
  | .namelessEntity => "directory.entities: entity name is required"
  | .duplicateEntity name => s!"directory.entities: duplicate entity {name}"
  | .unknownProbe name => s!"unknown probe in tracer.probes: {name}"
  | .noSourcePath => "tracer.pipe_path is required"

end ConfigError

namespace Config

/-- The first fault among named entities: a missing name, or one that an earlier entity has. -/
def entityFault? : List String → List FixedEntity → Option ConfigError
  | _, [] => none
  | seen, entity :: rest =>
    if entity.name = "" then some .namelessEntity
    else if seen.contains entity.name then some (.duplicateEntity entity.name)
    else entityFault? (entity.name :: seen) rest

/-- The first name that is not a probe's. -/
def probeFault? (names : List String) : Option ConfigError :=
  (names.find? fun name => (Probe.ofName? name).isNone).map .unknownProbe

/-- The first fault of a configuration. -/
def fault? (config : Config) : Option ConfigError :=
  let analyzer := config.analyzer
  let anomaly := analyzer.anomaly
  if config.monitor.interval.nanos = 0 then some .zeroInterval
  else if config.monitor.channelCapacity = 0 then some .zeroChannelCapacity
  else if config.monitor.defaultNamespace = "" then some .noDefaultNamespace
  else if config.correlator.pendingHorizon.nanos = 0 then some .zeroPendingHorizon
  else if config.correlator.maxPending = 0 then some .zeroMaxPending
  else if analyzer.historyCapacity < 2 then some .shortHistory
  else if analyzer.trendWindow.nanos = 0 then some .zeroTrendWindow
  else if !(analyzer.trendChangePercent.isFinite && 0.0 ≤ analyzer.trendChangePercent) then
    some .badTrendChange
  else if !(anomaly.threshold.isFinite && 0.0 < anomaly.threshold) then some .badAnomalyThreshold
  else if anomaly.minHistory < 2 then some .shortMinHistory
  else if analyzer.historyCapacity < anomaly.minHistory then
    some (.minHistoryExceedsCapacity anomaly.minHistory analyzer.historyCapacity)
  else
    ((entityFault? [] config.directory.entities).or (probeFault? config.source.probes)).or
      (if config.source.path = "" then some .noSourcePath else none)

/-- A configuration that passes every check, or the first fault. -/
def validate (config : Config) : Except ConfigError Config :=
  match config.fault? with
  | some fault => .error fault
  | none => .ok config

/-- The probes that the configuration selects. -/
def subscription (config : Config) : Subscription := Subscription.ofNames config.source.probes

end Config

end StorageTrace
