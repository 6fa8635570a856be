import StorageTrace.Agent
import StorageTrace.Proofs.Intake.Readings
import StorageTrace.Proofs.Monitoring.Skipping

/-! # Runs of an agent that takes in deliveries

An agent that has been started takes in deliveries while its monitor works, cycles run and its tally is
read, in any order. A delivery raises the series that it counts for, nothing else touches the series of
the intake, and the readings of the tally settle the events that have been delivered.
-/

namespace StorageTrace

namespace Metric

/-- The metrics that tell of deliveries, and of nothing else. -/
def ofIntake : List Metric := [.eventsReceived, .eventsByProbe, .eventParseErrors, .sourceErrors]

end Metric

namespace Delivery

/-- Whether a delivery raises a series of the intake. -/
def raises (metric : Metric) (label : String) : Delivery → Bool
  | .event _ reported =>
    (metric = .eventsReceived ∧ label = "") ∨ (metric = .eventsByProbe ∧ label = reported.probe.name)
  | .failure _ (.decode cause) => metric = .eventParseErrors ∧ label = cause.kind
  | .failure _ (.source _) => metric = .sourceErrors ∧ label = ""

def event? : Delivery → Option Event
  | .event _ reported => some reported
  | .failure _ _ => none

end Delivery

namespace Registry

theorem value_add (registry : Registry Nat) (metric other : Metric) (label otherLabel : String)
    (amount : Nat) :
    (registry.add metric label amount).value other otherLabel =
      registry.value other otherLabel + if other = metric ∧ otherLabel = label then amount else 0 := by
  rw [add, value_set]
  split
  · rename_i same
    rw [same.1, same.2]
  · rfl

/-- The right registry has the metrics of the intake of the left one. -/
def Undisturbed (before after : Registry Nat) : Prop :=
  ∀ metric ∈ Metric.ofIntake, ∀ label, after.value metric label = before.value metric label

namespace Undisturbed

variable {before between after : Registry Nat}

theorem refl (registry : Registry Nat) : Undisturbed registry registry := fun _ _ _ => rfl

theorem trans (earlier : Undisturbed before between) (later : Undisturbed between after) :
    Undisturbed before after := fun metric member label =>
  (later metric member label).trans (earlier metric member label)

theorem set (registry : Registry Nat) {metric : Metric} (other : metric ∉ Metric.ofIntake)
    (label : String) (amount : Nat) : Undisturbed registry (registry.set metric label amount) := by
  intro counted member otherLabel
  rw [value_set, if_neg]
  rintro ⟨rfl, -⟩
  exact other member

theorem add (registry : Registry Nat) {metric : Metric} (other : metric ∉ Metric.ofIntake)
    (label : String) (amount : Nat) : Undisturbed registry (registry.add metric label amount) :=
  set registry other label _

/-- A series that is raised by nothing only comes into sight. -/
theorem add_zero (registry : Registry Nat) (metric : Metric) (label : String) :
    Undisturbed registry (registry.add metric label 0) := by
  intro other _ otherLabel
  rw [value_add, ite_self, Nat.add_zero]

/-- What no entry of a list disturbs is not disturbed by the whole list. -/
theorem foldl {α : Type} {entries : List α} {change : Registry Nat → α → Registry Nat}
    (step : ∀ entry ∈ entries, ∀ registry, Undisturbed registry (change registry entry))
    (registry : Registry Nat) : Undisturbed registry (entries.foldl change registry) := by
  induction entries generalizing registry with
  | nil => exact refl registry
  | cons entry rest ih =>
    have first := step entry (List.mem_cons_self ..) registry
    exact first.trans (ih (fun other member => step other (List.mem_cons_of_mem _ member)) _)

theorem countOutcomes (registry : Registry Nat) (counts : OutcomeCounts) :
    Undisturbed registry (Monitor.countOutcomes registry counts) := by
  refine foldl (fun entry member registry => .add registry ?_ "" _) registry
  simp only [List.mem_cons, List.not_mem_nil, or_false] at member
  rcases member with rfl | rfl | rfl | rfl | rfl | rfl <;> simp [Metric.ofIntake]

theorem showSummary (registry : Registry Nat) (summary : Summary) :
    Undisturbed registry (Monitor.showSummary registry summary) := by
  have entities : Undisturbed registry (registry.set .entitiesTracked "" summary.entities) :=
    set registry (by decide) "" _
  have sizes := entities.trans
    (set _ (show Metric.anomaliesActive ∉ _ by decide) "" summary.anomalies)
  exact sizes.trans (foldl (fun entry _ registry => .set registry (by decide) _ _) _)

end Undisturbed

end Registry

namespace Monitor

open Registry (Undisturbed)

variable (monitor : Monitor)

theorem undisturbed_take (event : Event) :
    Undisturbed monitor.metrics (monitor.take event).metrics := by
  refine .foldl (fun completed _ registry => ?_) _
  rw [countCompleted_eq]
  exact .add registry (by decide) _ _

theorem undisturbed_work : Undisturbed monitor.metrics monitor.work.metrics := by
  unfold work
  split
  · generalize monitor.queue = queue
    suffices general : ∀ current : Monitor,
        Undisturbed current.metrics (queue.foldl take current).metrics from
      general { monitor with queue := [] }
    induction queue with
    | nil => exact fun current => .refl _
    | cons event rest ih =>
      exact fun current => (current.undisturbed_take event).trans (ih _)
  · exact .refl _

theorem undisturbed_offer (event : Event) :
    Undisturbed monitor.metrics (monitor.offer event).metrics := by
  unfold offer
  split
  · exact .refl _
  · split
    · exact .refl _
    · exact .add _ (by decide) _ _

theorem undisturbed_sweep : Undisturbed monitor.metrics monitor.sweep.metrics :=
  .set _ (by decide) _ _

theorem undisturbed_cycle (directory : Directory) (clock : Duration) (now : Instant) :
    Undisturbed monitor.metrics (monitor.cycle directory clock now).1.metrics := by
  cases listing : directory.list monitor.scope with
  | error cause =>
    rw [cycle_of_error monitor clock now listing]
    exact .add _ (by decide) _ _
  | ok listed =>
    rw [cycle_of_ok monitor clock now listing]
    exact ((Undisturbed.add _ (by decide) _ _).trans (.countOutcomes _ _)).trans (.showSummary _ _)

theorem undisturbed_tick (directory : Directory) (clock : Duration) (now : Instant) :
    Undisturbed monitor.metrics (monitor.tick directory clock now).1.metrics := by
  have turned := monitor.sweep.undisturbed_cycle directory clock now
  unfold tick
  split
  · split
    · rename_i equal
      rw [equal] at turned
      exact monitor.undisturbed_sweep.trans turned
    · rename_i equal
      rw [equal] at turned
      exact monitor.undisturbed_sweep.trans turned
  · exact .refl _

theorem undisturbed_new (config : Config) (metrics : Registry Nat) :
    Undisturbed metrics (new config metrics).metrics :=
  .foldl (fun _ _ registry => .add_zero registry _ _) _

theorem undisturbed_start {monitor started : Monitor} {directory : Directory}
    (start : monitor.start directory = .ok started) : Undisturbed monitor.metrics started.metrics := by
  unfold Monitor.start at start
  split at start
  · cases start
  · cases start
    have kept : Undisturbed monitor.metrics
        (monitor.metrics.set .eventChannelCapacity "" monitor.capacity) :=
      .set _ (by decide) _ _
    have worked (seeded : Monitor) : Undisturbed seeded.metrics
        (if seeded.stopped then seeded else seeded.sweep.work).metrics := by
      split
      · exact .refl _
      · exact seeded.undisturbed_sweep.trans seeded.sweep.undisturbed_work
    exact kept.trans (worked _)

end Monitor

namespace Agent

/-- One thing that happens to an agent that has been started. -/
inductive Call where
  | deliver (delivery : Delivery)
  | work
  | tick (directory : Directory) (clock : Duration) (now : Instant)
  | stop
  | drain

namespace Call

def delivery? : Call → Option Delivery
  | .deliver delivery => some delivery
  | .work | .tick _ _ _ | .stop | .drain => none

end Call

/-- What some calls deliver, in order. -/
def delivered (calls : List Call) : List Delivery := calls.filterMap Call.delivery?

theorem delivered_append (calls others : List Call) :
    delivered (calls ++ others) = delivered calls ++ delivered others := List.filterMap_append

theorem delivered_concat (calls : List Call) (call : Call) :
    delivered (calls ++ [call]) = delivered calls ++ call.delivery?.toList := by
  rw [delivered_append]
  cases call <;> rfl

end Agent

/-- An agent that takes in deliveries, with what the readings of its tally have said. -/
structure IntakeRun where
  agent : Agent
  readings : List (Probe × ProbeCount) := []

namespace IntakeRun

def step (run : IntakeRun) : Agent.Call → IntakeRun
  | .deliver delivery => { run with agent := run.agent.receive delivery }
  | .work => { run with agent := { run.agent with monitor := run.agent.monitor.work } }
  | .tick directory clock now =>
    { run with
      agent := { run.agent with monitor := (run.agent.monitor.tick directory clock now).1 } }
  | .stop => { run with agent := { run.agent with monitor := run.agent.monitor.stop } }
  | .drain =>
    { agent := { run.agent with tally := run.agent.tally.drain.2 }
      readings := run.readings ++ run.agent.tally.drain.1 }

/-- The run of an agent over some calls. -/
def of (agent : Agent) (calls : List Agent.Call) : IntakeRun := calls.foldl step { agent }

theorem of_concat (agent : Agent) (calls : List Agent.Call) (call : Agent.Call) :
    of agent (calls ++ [call]) = (of agent calls).step call := by
  rw [of, List.foldl_append, List.foldl_cons, List.foldl_nil, ← of]

end IntakeRun

namespace Agent

/-- A delivery raises the series it counts for by one, and no other series of the intake. -/
theorem value_receive (agent : Agent) (delivery : Delivery) {metric : Metric}
    (member : metric ∈ Metric.ofIntake) (label : String) :
    (agent.receive delivery).monitor.metrics.value metric label =
      agent.monitor.metrics.value metric label + if delivery.raises metric label then 1 else 0 := by
  cases delivery with
  | event handler event =>
    rw [receive, receiveEvent, Monitor.undisturbed_offer _ event metric member label,
      Registry.value_add, Registry.value_add, Nat.add_assoc]
    by_cases first : metric = .eventsReceived
    · simp [first, Delivery.raises]
    · simp [first, Delivery.raises]
  | failure handler failure =>
    cases failure with
    | decode cause => simp [receive, receiveFailure, Registry.value_add, Delivery.raises]
    | source text => simp [receive, receiveFailure, Registry.value_add, Delivery.raises]

/-- An agent that has just been started has counted nothing. -/
theorem fresh_of_start {listen : String → Except String Unit} {config : Config} {directory : Directory}
    {intake : Intake} {agent : Agent} (started : start listen config directory intake = .ok agent) :
    agent.tally = {} ∧
      ∀ metric ∈ Metric.ofIntake, ∀ label, agent.monitor.metrics.value metric label = 0 := by
  unfold start at started
  dsimp only at started
  split at started
  · cases started
  · split at started
    · cases started
    · rename_i monitor running
      split at started
      · cases started
      · cases started
        have series : Registry.Undisturbed monitor.metrics (withProbeSeries monitor.metrics) :=
          .foldl (fun _ _ registry => .add_zero registry _ _) _
        have whole := ((Monitor.undisturbed_new config {}).trans
          (Monitor.undisturbed_start running)).trans series
        exact ⟨rfl, whole⟩

end Agent

namespace IntakeRun

variable (run : IntakeRun) (agent : Agent) (call : Agent.Call) (calls : List Agent.Call)

/-- Only deliveries touch the series of the intake. -/
theorem value_step {metric : Metric} (member : metric ∈ Metric.ofIntake) (label : String) :
    (run.step call).agent.monitor.metrics.value metric label =
      run.agent.monitor.metrics.value metric label +
        call.delivery?.toList.countP (Delivery.raises metric label) := by
  cases call with
  | deliver delivery =>
    change (run.agent.receive delivery).monitor.metrics.value metric label = _
    rw [run.agent.value_receive delivery member label, Agent.Call.delivery?, Option.toList_some,
      List.countP_singleton]
  | work => exact run.agent.monitor.undisturbed_work metric member label
  | tick directory clock now =>
    exact run.agent.monitor.undisturbed_tick directory clock now metric member label
  | stop => rfl
  | drain => rfl

/-- A series of the intake grows by the deliveries that raise it. -/
theorem value_of {metric : Metric} (member : metric ∈ Metric.ofIntake) (label : String) :
    (of agent calls).agent.monitor.metrics.value metric label =
      agent.monitor.metrics.value metric label +
        (Agent.delivered calls).countP (Delivery.raises metric label) := by
  induction calls using List.reverseRecOn with
  | nil => rfl
  | append_singleton calls call ih =>
    rw [of_concat, value_step _ _ member, ih, Agent.delivered_concat, List.countP_append,
      Nat.add_assoc]

/-- The events that some calls deliver from a probe. -/
def eventsOf (probe : Probe) (deliveries : List Delivery) : List Event :=
  (deliveries.filterMap Delivery.event?).filter fun event => event.probe = probe

theorem eventsOf_append (probe : Probe) (earlier later : List Delivery) :
    eventsOf probe (earlier ++ later) = eventsOf probe earlier ++ eventsOf probe later := by
  rw [eventsOf, List.filterMap_append, List.filter_append, ← eventsOf, ← eventsOf]

/-- One call keeps the readings and the tally settled for every probe. -/
theorem settled_step {probe : Probe} {events : List Event}
    (settled : run.agent.tally.Settled run.readings probe events) :
    (run.step call).agent.tally.Settled (run.step call).readings probe
      (events ++ eventsOf probe call.delivery?.toList) := by
  have still : run.agent.tally.Settled run.readings probe (events ++ []) := by
    rwa [List.append_nil]
  cases call with
  | deliver delivery =>
    cases delivery with
    | event handler event =>
      have own : eventsOf probe [.event handler event] =
          if event.probe = probe then [event] else [] := by
        change [event].filter (fun event => event.probe = probe) = _
        rw [List.filter_singleton]
        by_cases same : event.probe = probe <;> simp [same]
      rw [Agent.Call.delivery?, Option.toList_some, own]
      exact settled.record event
    | failure handler failure => exact still
  | work => exact still
  | tick directory clock now => exact still
  | stop => exact still
  | drain =>
    change Tally.Settled _ _ probe (events ++ [])
    rw [List.append_nil]
    exact settled.drain

/-- The readings of a run and the tally in the end account for the events delivered. -/
theorem settled_of (fresh : agent.tally = {}) (probe : Probe) :
    (of agent calls).agent.tally.Settled (of agent calls).readings probe
      (eventsOf probe (Agent.delivered calls)) := by
  induction calls using List.reverseRecOn with
  | nil =>
    change agent.tally.Settled [] probe []
    rw [fresh]
    exact .start probe
  | append_singleton calls call ih =>
    rw [of_concat, Agent.delivered_concat, eventsOf_append]
    exact settled_step _ _ ih

end IntakeRun

end StorageTrace
