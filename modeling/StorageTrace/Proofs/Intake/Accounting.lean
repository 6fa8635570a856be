import StorageTrace.Proofs.Framing.Log
import StorageTrace.Proofs.Intake.Counting

/-! # The accounts of an intake

An agent takes in what a replay delivers of some samples, or a reader of their frames. The metrics of the
intake and the readings of the tally account for the samples one by one: for those that decode to a
probe of the configuration, and for those that are rejected.
-/

namespace StorageTrace

/-! ## What the samples hold -/

namespace Config

/-- The configuration names the probe, or none at all. -/
def Selects (config : Config) (probe : Probe) : Prop :=
  config.source.probes = [] ∨ probe.name ∈ config.source.probes

instance (config : Config) (probe : Probe) : Decidable (config.Selects probe) :=
  inferInstanceAs (Decidable (_ ∨ _))

/-- The events of selected probes that samples decode to. -/
def selected (config : Config) (samples : List (List UInt8)) : List Event :=
  (samples.filterMap fun sample => (Wire.decode sample).toOption).filter fun event =>
    config.Selects event.probe

/-- The selected events of one probe. -/
def reported (config : Config) (samples : List (List UInt8)) (probe : Probe) : List Event :=
  (config.selected samples).filter fun event => event.probe = probe

theorem selected_cons (config : Config) (sample : List UInt8) (samples : List (List UInt8)) :
    config.selected (sample :: samples) = config.selected [sample] ++ config.selected samples := by
  rw [selected, ← List.singleton_append, List.filterMap_append, List.filter_append]
  rfl

end Config

namespace Wire

/-- The causes for which samples are rejected. -/
def rejections (samples : List (List UInt8)) : List DecodeError :=
  samples.filterMap fun sample =>
    match decode sample with
    | .ok _ => none
    | .error cause => some cause

theorem rejections_cons (sample : List UInt8) (samples : List (List UInt8)) :
    rejections (sample :: samples) = rejections [sample] ++ rejections samples := by
  rw [rejections, ← List.singleton_append, List.filterMap_append]
  rfl

end Wire

namespace Probe

theorem ofName?_eq_some_iff {name : String} {probe : Probe} :
    ofName? name = some probe ↔ probe.name = name := by
  constructor
  · intro found
    simpa using List.find?_some found
  · rintro rfl
    cases probe <;> decide

theorem name_inj {probe other : Probe} : probe.name = other.name ↔ probe = other := by
  refine ⟨fun same => ?_, congrArg name⟩
  have found := ofName?_eq_some_iff.2 same
  rw [ofName?_eq_some_iff.2 rfl] at found
  exact (Option.some.inj found).symm

end Probe

namespace Config

/-- Every name in the configuration is that of a probe. -/
def NamesProbes (config : Config) : Prop :=
  ∀ name ∈ config.source.probes, ∃ probe, Probe.ofName? name = some probe

theorem rest_of_faultless {check : Prop} [Decidable check] {fault : ConfigError}
    {rest : Option ConfigError} (faultless : (if check then some fault else rest) = none) :
    rest = none := by
  split at faultless
  · cases faultless
  · exact faultless

/-- An accepted configuration names probes only. -/
theorem namesProbes_of_validate {config : Config} (valid : config.validate = .ok config) :
    config.NamesProbes := by
  have faultless : config.fault? = none := by
    unfold validate at valid
    split at valid
    · cases valid
    · assumption
  unfold fault? at faultless
  -- The names are looked at behind all checks of numbers and times.
  repeat replace faultless := rest_of_faultless faultless
  have unfaulted : probeFault? config.source.probes = none :=
    (Option.or_eq_none_iff.1 (Option.or_eq_none_iff.1 faultless).1).2
  rw [probeFault?, Option.map_eq_none_iff, List.find?_eq_none] at unfaulted
  intro name member
  have known := unfaulted name member
  rwa [Option.isNone_iff_eq_none, ← ne_eq, Option.ne_none_iff_exists'] at known

/-- Where every name is that of a probe, the subscription admits what the configuration selects. -/
theorem admits_iff_selects {config : Config} (known : config.NamesProbes) (probe : Probe) :
    config.subscription.admits probe = true ↔ config.Selects probe := by
  have held : probe ∈ config.subscription.probes ↔ probe.name ∈ config.source.probes := by
    simp only [subscription, Subscription.ofNames, List.mem_filterMap, Probe.ofName?_eq_some_iff]
    exact ⟨fun ⟨name, member, same⟩ => same ▸ member, fun member => ⟨_, member, rfl⟩⟩
  have nothing : config.subscription.probes = [] ↔ config.source.probes = [] := by
    simp only [subscription, Subscription.ofNames, List.filterMap_eq_nil_iff]
    refine ⟨fun unknown => List.eq_nil_iff_forall_not_mem.2 fun name member => ?_, ?_⟩
    · obtain ⟨found, same⟩ := known name member
      rw [unknown name member] at same
      cases same
    · intro empty name member
      rw [empty] at member
      cases member
  rw [Subscription.admits, Selects, Bool.or_eq_true, List.isEmpty_iff, List.contains_iff_mem, held,
    nothing]

end Config

/-! ## What is delivered -/

namespace Agent

variable {config : Config}

/-- What the handlers of an agent are given for one sample. -/
theorem deliver_audience (known : config.NamesProbes) (sample : List UInt8) :
    (audience config).deliver sample =
      (config.selected [sample]).map (.event 0) ++
        (Wire.rejections [sample]).map fun cause => .failure 0 (.decode cause) := by
  unfold Audience.deliver Config.selected Wire.rejections
  cases decoded : Wire.decode sample with
  | error cause => simp [decoded, audience, Audience.report, Except.toOption]
  | ok event =>
    have admitted := Config.admits_iff_selects known event.probe
    by_cases selects : config.Selects event.probe <;>
      simp [decoded, audience, admitted, selects, Audience.dispatch, Except.toOption]

/-- Deliveries are counted by the selected events and the rejections. -/
theorem countP_deliverAll
    (known : config.NamesProbes) (samples : List (List UInt8)) (test : Delivery → Bool) :
    ((audience config).deliverAll samples).countP test =
      (config.selected samples).countP (fun event => test (.event 0 event)) +
        (Wire.rejections samples).countP fun cause => test (.failure 0 (.decode cause)) := by
  induction samples with
  | nil => rfl
  | cons sample samples ih =>
    rw [Audience.deliverAll_cons, List.countP_append, ih, deliver_audience known,
      config.selected_cons sample samples, Wire.rejections_cons sample samples, List.countP_append,
      List.countP_append, List.countP_append, List.countP_map, List.countP_map]
    simp only [Function.comp_def]
    omega

/-- The events delivered are the selected ones. -/
theorem filterMap_event_deliverAll (known : config.NamesProbes) (samples : List (List UInt8)) :
    ((audience config).deliverAll samples).filterMap Delivery.event? = config.selected samples := by
  induction samples with
  | nil => rfl
  | cons sample samples ih =>
    rw [Audience.deliverAll_cons, List.filterMap_append, ih, deliver_audience known,
      config.selected_cons sample samples, List.filterMap_append, List.filterMap_map,
      List.filterMap_map]
    simp [Function.comp_def, Delivery.event?]

/-- Pieces of a list make up the list. -/
theorem flatten_pieces {α : Type} {size : Nat} (positive : 0 < size) (fuel : Nat) (elements : List α)
    (enough : elements.length ≤ fuel) : (pieces size fuel elements).flatten = elements := by
  induction fuel generalizing elements with
  | zero =>
    rw [List.eq_nil_of_length_eq_zero (Nat.le_zero.1 enough)]
    rfl
  | succ fuel ih =>
    cases elements with
    | nil => rfl
    | cons first rest =>
      have shorter : ((first :: rest).drop size).length ≤ fuel := by
        rw [List.length_drop]
        omega
      rw [pieces, List.flatten_cons, ih _ shorter, List.take_append_drop]
      exact List.cons_ne_nil _ _

/-- The intake brings the samples, in order: as they are, or framed. A last frame may be cut off. -/
inductive Brings (samples : List (List UInt8)) : Intake → Prop where
  | replay : Brings samples (.replay samples)
  | pipe (fits : ∀ sample ∈ samples, sample.length ≤ Frame.maxLength) (last : List UInt8)
    (unfinished : Frame.Unfinished last) :
    Brings samples (.pipe (.bytes (Frame.encodeAll samples ++ last)))

theorem flatten_bursts {samples : List (List UInt8)} {intake : Intake} (brings : Brings samples intake)
    (audience : Audience) : (bursts audience intake).flatten = audience.deliverAll samples := by
  cases brings with
  | replay =>
    have positive : 0 < burstSize := by decide
    have whole := flatten_pieces positive samples.length samples Nat.le.refl
    calc ((pieces burstSize samples.length samples).map audience.deliverAll).flatten
        = ((pieces burstSize samples.length samples).flatMap id).flatMap audience.deliver := by
          rw [List.flatMap_assoc, List.flatMap_def]
          rfl
      _ = audience.deliverAll samples := by
          rw [List.flatMap_id, whole, Audience.deliverAll]
  | pipe fits last unfinished =>
    rw [bursts, List.flatten_singleton, Audience.pass, audience.read_encodeAll samples last fits,
      audience.read_of_unfinished unfinished, List.append_nil]

/-- Taking in an intake at once, as calls: each burst, and the monitor behind it. -/
def burstCalls (bursts : List (List Delivery)) : List Call :=
  bursts.flatMap fun burst => burst.map .deliver ++ [.work]

theorem burstCalls_cons (burst : List Delivery) (rest : List (List Delivery)) :
    burstCalls (burst :: rest) = burst.map .deliver ++ .work :: burstCalls rest := by
  rw [burstCalls, List.flatMap_cons, List.append_assoc, ← burstCalls]
  rfl

theorem delivered_burstCalls (bursts : List (List Delivery)) :
    delivered (burstCalls bursts) = bursts.flatten := by
  have delivered_map (burst : List Delivery) : delivered (burst.map .deliver) = burst := by
    rw [delivered, List.filterMap_map]
    exact List.filterMap_some
  induction bursts with
  | nil => rfl
  | cons burst rest ih =>
    rw [burstCalls_cons, delivered_append, delivered_map, List.flatten_cons, ← ih]
    rfl

theorem foldl_deliver (burst : List Delivery) (run : IntakeRun) :
    (burst.map Call.deliver).foldl IntakeRun.step run =
      { run with agent := burst.foldl receive run.agent } := by
  induction burst generalizing run with
  | nil => rfl
  | cons delivery rest ih => exact ih (run.step (.deliver delivery))

theorem foldl_burstCalls (bursts : List (List Delivery)) (run : IntakeRun) :
    (burstCalls bursts).foldl IntakeRun.step run =
      { run with agent := bursts.foldl takeBurst run.agent } := by
  induction bursts generalizing run with
  | nil => rfl
  | cons burst rest ih =>
    rw [burstCalls_cons, List.foldl_append, List.foldl_cons, foldl_deliver]
    exact ih { run with agent := run.agent.takeBurst burst }

/-- Consuming an intake is to run through its bursts. -/
theorem agent_of_burstCalls (agent : Agent) (config : Config) (intake : Intake) :
    (IntakeRun.of agent (burstCalls (bursts (audience config) intake))).agent =
      agent.consume config intake := by
  rw [IntakeRun.of, foldl_burstCalls, consume]

end Agent

namespace IntakeRun

/-- The readings of a run, and a last one in the end. -/
def allReadings (run : IntakeRun) : List (Probe × ProbeCount) :=
  run.readings ++ run.agent.tally.drain.1

/-- The metrics and the readings of a run account for some samples. The readings add up as words; their
sum is the number itself, and no bytes are missing, unless that number goes beyond the words. -/
structure Accounts (run : IntakeRun) (config : Config) (samples : List (List UInt8)) : Prop where
  received : run.agent.monitor.metrics.value .eventsReceived = (config.selected samples).length
  byProbe : ∀ probe : Probe, run.agent.monitor.metrics.value .eventsByProbe probe.name =
    (config.reported samples probe).length
  count : ∀ probe, ((Tally.readingsOf probe run.allReadings).map (·.events)).sum =
    UInt64.ofNat (config.reported samples probe).length
  exact_count : ∀ probe, (config.reported samples probe).length < 2 ^ 64 →
    ((Tally.readingsOf probe run.allReadings).map (·.events.toNat)).sum =
      (config.reported samples probe).length
  bytes : ∀ probe, (config.reported samples probe).length < 2 ^ 64 →
    ((Tally.readingsOf probe run.allReadings).map (·.bytes)).sum =
      ((config.reported samples probe).map (·.bytes)).sum
  rejected : ∀ label, run.agent.monitor.metrics.value .eventParseErrors label =
    (Wire.rejections samples).countP fun cause => label = cause.kind
  failed : run.agent.monitor.metrics.value .sourceErrors = 0

end IntakeRun

namespace Agent

/-- Where the machine listens on the configured address, an agent can be started on an intake that brings
samples. -/
theorem exists_start {config : Config} {samples : List (List UInt8)} {intake : Intake}
    (brings : Brings samples intake) (directory : Directory) {listen : String → Except String Unit}
    (listens : listen (listenAddress config.health.address) = .ok ()) :
    ∃ agent, start listen config directory intake = .ok agent := by
  unfold start
  dsimp only
  rw [listens]
  cases brings with
  | replay => exact ⟨_, rfl⟩
  | pipe fits last unfinished => exact ⟨_, rfl⟩

/-- An agent with an accepted configuration starts, on any machine that listens on the configured address,
and its intake brings some samples. Whatever its monitor does in between, and whenever its tally is read,
the events received are those samples that decode to a selected probe, all probes being selected if none is
named. Each probe has its own events in its series and, over all readings, in its tally, with their bytes.
Every sample that is rejected counts under its kind, selected or not, and the source itself never fails. The
agent as it consumes the intake at once is the end of such a run. -/
theorem accounts_for_samples {config : Config} (valid : config.validate = .ok config)
    {samples : List (List UInt8)} {intake : Intake} (brings : Brings samples intake)
    (directory : Directory) {listen : String → Except String Unit}
    (listens : listen (listenAddress config.health.address) = .ok ()) :
    ∃ agent, start listen config directory intake = .ok agent ∧
      let deliveries := (bursts (audience config) intake).flatten
      (∃ calls, delivered calls = deliveries ∧
        (IntakeRun.of agent calls).agent = agent.consume config intake) ∧
      ∀ calls, delivered calls = deliveries → (IntakeRun.of agent calls).Accounts config samples := by
  obtain ⟨agent, started⟩ := exists_start brings directory listens
  refine ⟨agent, started, ⟨_, delivered_burstCalls _, agent_of_burstCalls agent config intake⟩, ?_⟩
  intro calls same
  have known := config.namesProbes_of_validate valid
  obtain ⟨fresh, zero⟩ := fresh_of_start started
  have all : (bursts (audience config) intake).flatten = (audience config).deliverAll samples :=
    flatten_bursts brings _
  have series {metric : Metric} (member : metric ∈ Metric.ofIntake) (label : String) :
      (IntakeRun.of agent calls).agent.monitor.metrics.value metric label =
        (config.selected samples).countP (fun event => (Delivery.event 0 event).raises metric label) +
          (Wire.rejections samples).countP fun cause =>
            (Delivery.failure 0 (.decode cause)).raises metric label := by
    rw [IntakeRun.value_of agent calls member label, zero metric member label, Nat.zero_add, same, all,
      countP_deliverAll known]
  have last (probe : Probe) :
      Tally.Settled {} (IntakeRun.of agent calls).allReadings probe (config.reported samples probe) := by
    have settled := IntakeRun.settled_of agent calls fresh probe
    rw [same, all, IntakeRun.eventsOf, filterMap_event_deliverAll known] at settled
    exact settled.drain
  refine ⟨?_, fun probe => ?_, fun probe => ?_, fun probe fits => ?_, fun probe fits => ?_,
    fun label => ?_, ?_⟩
  · rw [series (by decide)]
    simp [Delivery.raises]
  · rw [series (by decide), Config.reported, ← List.countP_eq_length_filter]
    simp [Delivery.raises, Probe.name_inj, eq_comm (a := probe)]
  · simpa using (last probe).count
  · simpa using (last probe).exact_count fits
  · simpa using (last probe).bytes fits
  · rw [series (by decide)]
    simp [Delivery.raises]
  · rw [series (by decide)]
    simp [Delivery.raises]

/-- Two probes are selected, one of them by a name that comes twice. -/
def watched : Config := { source := { probes := ["remote_issue", "vfs_read_exit", "remote_issue"] } }

/-- Two events of a selected probe, one of another probe between them, a sample of three bytes, and one
that names no probe. -/
def watchedSamples : List (List UInt8) :=
  [Wire.encode { probe := .remoteIssue, bytes := 100 }, Wire.encode { probe := .blockInsert, bytes := 5 },
    [1, 2, 3], Wire.encode { probe := .remoteIssue, bytes := 7 }, List.replicate 48 0]

/-- The tally is read twice on the way, and the monitor is stopped before the second event comes. -/
def watchedCalls : List Call :=
  [.deliver (.event 0 { probe := .remoteIssue, bytes := 100 }), .drain, .work,
    .deliver (.failure 0 (.decode (.truncated 3))), .stop, .drain,
    .deliver (.event 0 { probe := .remoteIssue, bytes := 7 }),
    .tick (.failing "pods" "timed out") ⟨0⟩ ⟨0⟩,
    .deliver (.failure 0 (.decode (.unknownProbe 0)))]

/-- A machine on which nobody listens at the usual port yet, and somebody does at all others. -/
def usualPortFree (address : String) : Except String Unit :=
  if address = "0.0.0.0:9090" then .ok () else .error "Address already in use (os error 98)"

theorem accounts_for_samples_watched :
    ∃ agent, start usualPortFree watched (.fixed []) (.replay watchedSamples) = .ok agent ∧
      let run := IntakeRun.of agent watchedCalls
      let metrics := run.agent.monitor.metrics
      metrics.value .eventsReceived = 2 ∧
        metrics.value .eventsByProbe "remote_issue" = 2 ∧
        metrics.value .eventsByProbe "block_rq_insert" = 0 ∧
        ((Tally.readingsOf .remoteIssue run.allReadings).map (·.events.toNat)).sum = 2 ∧
        ((Tally.readingsOf .remoteIssue run.allReadings).map (·.bytes)).sum = 107 ∧
        metrics.value .eventParseErrors "truncated" = 1 ∧
        metrics.value .eventParseErrors "unknown_probe" = 1 ∧
        metrics.value .sourceErrors = 0 := by
  have valid : watched.validate = .ok watched := by
    have faultless : watched.fault? = none := by decide +kernel
    rw [Config.validate, faultless]
  have listens : usualPortFree (listenAddress watched.health.address) = .ok () := rfl
  have brings : Brings watchedSamples (.replay watchedSamples) := .replay
  obtain ⟨agent, started, -, accounted⟩ := accounts_for_samples valid brings (.fixed []) listens
  have accounts := accounted watchedCalls rfl
  exact ⟨agent, started, accounts.received, accounts.byProbe .remoteIssue,
    accounts.byProbe .blockInsert, accounts.exact_count .remoteIssue (by decide),
    accounts.bytes .remoteIssue (by decide), accounts.rejected "truncated",
    accounts.rejected "unknown_probe", accounts.failed⟩

end Agent

end StorageTrace
