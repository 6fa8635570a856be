import StorageTrace.Frame
import StorageTrace.Monitor
import StorageTrace.Tally

/-! # The agent

The agent reads samples from a source, counts what it takes in, and hands the events on to its
monitor. It starts its parts in a fixed order, metrics server, monitor, source, and fails with the
first that cannot be started. Whether the metrics server gets its address is for the machine to say.
-/

namespace StorageTrace

/-- Where an agent's samples come from. -/
inductive Intake where
  | replay (samples : List (List UInt8))
  | pipe (source : Source)
  deriving Inhabited

/-- Why an agent cannot be started. -/
inductive AgentError where
  | metricsServer (address cause : String)
  | monitor (cause : MonitorError)
  | source (path : String) (cause : SystemError)
  deriving Inhabited

namespace AgentError

/-- The texts of a failure and of its causes, outermost first. -/
def chain : AgentError → List String
  | .metricsServer address cause =>
    ["starting health metrics server", s!"listening on {address}", cause]
  | .monitor cause => ["starting storage monitor", cause.message]
  | .source path cause =>
    ["starting pipe tracer", Source.StartError.message (.noSource path), cause.message]

end AgentError

/-- A monitor with the counts of its intake. -/
structure Agent where
  monitor : Monitor
  tally : Tally := {}

namespace Agent

/-- The directory that a configuration describes: its named entities, and the cgroup tree below the
root that it names. -/
def directory (config : Config) (tree : CgroupRoot) : Directory :=
  let root := config.directory.cgroupRoot
  .composite
    (.fixed config.directory.entities ::
      if root = "" then [] else [.cgroup root tree config.monitor.defaultNamespace])

/-- The handlers that an agent registers. -/
def audience (config : Config) : Audience := { subscription := config.subscription }

/-- Counts an event and offers it to the monitor. -/
def receiveEvent (agent : Agent) (event : Event) : Agent :=
  let metrics :=
    (agent.monitor.metrics.add .eventsReceived "" 1).add .eventsByProbe event.probe.name 1
  { monitor := Monitor.offer { agent.monitor with metrics } event
    tally := agent.tally.record event }

/-- Counts a failure: by its kind if a sample could not be decoded. -/
def receiveFailure (agent : Agent) (failure : Failure) : Agent :=
  let metrics :=
    match failure with
    | .decode cause => agent.monitor.metrics.add .eventParseErrors cause.kind 1
    | .source _ => agent.monitor.metrics.add .sourceErrors "" 1
  { agent with monitor := { agent.monitor with metrics } }

/-- What the agent's handlers do with a delivery. -/
def receive (agent : Agent) : Delivery → Agent
  | .event _ event => agent.receiveEvent event
  | .failure _ failure => agent.receiveFailure failure

/-- Takes in deliveries that come at once; the queue is worked off behind them. -/
def takeBurst (agent : Agent) (deliveries : List Delivery) : Agent :=
  let agent := deliveries.foldl receive agent
  { agent with monitor := agent.monitor.work }

/-- How many samples a replay delivers at once. -/
def burstSize : Nat := 256

/-- A list cut into pieces of a size, the last of which may be shorter. -/
def pieces {α : Type} (size : Nat) : Nat → List α → List (List α)
  | 0, _ => []
  | _ + 1, [] => []
  | fuel + 1, elements => elements.take size :: pieces size fuel (elements.drop size)

/-- The deliveries of an intake, grouped by what comes at once. -/
def bursts (audience : Audience) : Intake → List (List Delivery)
  | .replay samples => (pieces burstSize samples.length samples).map audience.deliverAll
  | .pipe source => [audience.pass source]

/-- A fresh registry that shows a series for every probe. -/
def withProbeSeries (metrics : Registry Nat) : Registry Nat :=
  Probe.all.foldl (fun metrics probe => metrics.add .eventsByProbe probe.name 0) metrics

/-- The address that the metrics are served at: without a host on every interface, and without a
setting at the usual port. -/
def listenAddress (setting : String) : String :=
  if setting = "" then "0.0.0.0:9090"
  else if setting.toList.head? = some ':' then "0.0.0.0" ++ setting
  else setting

/-- Starts an agent on a machine that listens on addresses or says why not. -/
def start (listen : String → Except String Unit) (config : Config) (directory : Directory)
    (intake : Intake) : Except AgentError Agent :=
  let address := listenAddress config.health.address
  match listen address with
  | .error cause => .error (.metricsServer address cause)
  | .ok () =>
    match (Monitor.new config {}).start directory with
    | .error cause => .error (.monitor cause)
    | .ok monitor =>
      match intake with
      | .pipe (.unreachable cause) => .error (.source config.source.path cause)
      | _ => .ok { monitor := { monitor with metrics := withProbeSeries monitor.metrics } }

/-- Takes in everything that an intake delivers. -/
def consume (agent : Agent) (config : Config) (intake : Intake) : Agent :=
  (bursts (audience config) intake).foldl takeBurst agent

end Agent

end StorageTrace
