import StorageTrace.Config
import StorageTrace.DurationText
import StorageTrace.Yaml.Value

/-! # Configurations as texts

A configuration is a YAML mapping with a section for each part. Whatever is left out has its default,
and an empty text is the configuration of all defaults.
-/

namespace StorageTrace

namespace ConfigText

open Yaml

def duration (node : Node) : Reading Duration := do
  Duration.ofText? (← Reading.text node)

def idleLatency (node : Node) : Reading IdleLatency := do
  IdleLatency.ofName? (← Reading.choice node)

def denominator (node : Node) : Reading Denominator := do
  Denominator.ofName? (← Reading.choice node)

def monitor (node : Node) : Reading MonitorSettings := do
  let default : MonitorSettings := {}
  let s ← Section.ofNode
    ["interval", "event_channel_capacity", "idle_latency", "default_namespace"] node
  return {
    interval := ← s.optional duration "interval" default.interval
    channelCapacity := ←
      s.optional Reading.natural "event_channel_capacity" default.channelCapacity
    idleLatency := ← s.optional idleLatency "idle_latency" default.idleLatency
    defaultNamespace := ← s.optional Reading.text "default_namespace" default.defaultNamespace }

def correlator (node : Node) : Reading CorrelatorSettings := do
  let default : CorrelatorSettings := {}
  let s ← Section.ofNode ["pending_horizon", "max_pending"] node
  return {
    pendingHorizon := ← s.optional duration "pending_horizon" default.pendingHorizon
    maxPending := ← s.optional Reading.natural "max_pending" default.maxPending }

def thresholds (node : Node) : Reading ThresholdSettings := do
  let default : ThresholdSettings := {}
  let s ← Section.ofNode ["read", "write", "queue"] node
  return {
    read := ← s.optional duration "read" default.read
    write := ← s.optional duration "write" default.write
    queue := ← s.optional duration "queue" default.queue }

def anomaly (node : Node) : Reading AnomalySettings := do
  let default : AnomalySettings := {}
  let s ← Section.ofNode ["threshold", "min_history", "z_score_denominator"] node
  return {
    threshold := ← s.optional Reading.double "threshold" default.threshold
    minHistory := ← s.optional Reading.natural "min_history" default.minHistory
    denominator := ← s.optional denominator "z_score_denominator" default.denominator }

def analyzer (node : Node) : Reading AnalyzerSettings := do
  let default : AnalyzerSettings := {}
  let s ← Section.ofNode
    ["history_capacity", "trend_window", "trend_change_percent", "thresholds", "anomaly"] node
  return {
    historyCapacity := ← s.optional Reading.natural "history_capacity" default.historyCapacity
    trendWindow := ← s.optional duration "trend_window" default.trendWindow
    trendChangePercent := ←
      s.optional Reading.double "trend_change_percent" default.trendChangePercent
    thresholds := ← s.optional thresholds "thresholds" default.thresholds
    anomaly := ← s.optional anomaly "anomaly" default.anomaly }

/-- An entity, which must have a name. -/
def entity (node : Node) : Reading FixedEntity := do
  let s ← Section.ofNode ["name", "namespace", "cgroup_id"] node
  return {
    name := ← s.required Reading.text "name"
    namespaceName := ← s.optional Reading.text "namespace" "default"
    cgroup := UInt64.ofNat (← s.optional Reading.natural "cgroup_id" 0) }

def directory (node : Node) : Reading DirectorySettings := do
  let default : DirectorySettings := {}
  let s ← Section.ofNode ["namespace", "cgroup_root", "entities"] node
  return {
    scope := ← s.optional Reading.text "namespace" default.scope
    cgroupRoot := ← s.optional Reading.text "cgroup_root" default.cgroupRoot
    entities := ←
      s.optional (Reading.list entity) "entities" default.entities }

def source (node : Node) : Reading SourceSettings := do
  let default : SourceSettings := {}
  let s ← Section.ofNode ["pipe_path", "reopen_on_eof", "probes"] node
  return {
    path := ← s.optional Reading.text "pipe_path" default.path
    reopen := ← s.optional Reading.boolean "reopen_on_eof" default.reopen
    probes := ←
      s.optional (Reading.list Reading.text) "probes" default.probes }

def health (node : Node) : Reading HealthSettings := do
  let default : HealthSettings := {}
  let s ← Section.ofNode ["addr"] node
  return { address := ← s.optional Reading.text "addr" default.address }

/-- The configuration that a document spells, as yet unchecked. -/
def ofDocument : Reading Config := do
  let default : Config := {}
  match (← read).root with
  | none => return default
  | some root =>
    let s ← Section.ofNode
      ["log_level", "monitor", "correlator", "analyzer", "directory", "tracer", "health"] root
    return {
      logLevel := ← s.optional Reading.text "log_level" default.logLevel
      monitor := ← s.optional monitor "monitor" default.monitor
      correlator := ← s.optional correlator "correlator" default.correlator
      analyzer := ← s.optional analyzer "analyzer" default.analyzer
      directory := ← s.optional directory "directory" default.directory
      source := ← s.optional source "tracer" default.source
      health := ← s.optional health "health" default.health }

end ConfigText

/-- Why a configuration cannot be used. -/
inductive LoadError where
  | unreadable (text : String)
  | malformed
  | invalid (cause : ConfigError)
  deriving DecidableEq, Repr, Inhabited

namespace Config

/-- The configuration that a text spells, if it passes every check. -/
def ofText (text : String) : Except LoadError Config :=
  match (Yaml.Document.ofText? text).bind (Yaml.Reading.run? ConfigText.ofDocument) with
  | none => .error .malformed
  | some config =>
    match config.validate with
    | .ok config => .ok config
    | .error cause => .error (.invalid cause)

end Config

end StorageTrace
