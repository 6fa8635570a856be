import StorageTrace.Proofs.Collection.Run
import StorageTrace.Proofs.Wire.Records

/-! # Operations of decoded samples

Events of system calls are matched by the direction that they carry and not by their probe, so the events
of a read that begins and a write that ends can make a pair. A decoded event carries the direction of its
probe, whatever its record says. What is recorded from samples therefore comes from the two probes that
enclose the slot it is recorded in, of one task or of one handle.
-/

namespace StorageTrace

namespace Slot

/-- The probes at which what a slot measures starts and finishes. -/
def probes : Slot → Probe × Probe
  | .read => (.readEntry, .readExit)
  | .write => (.writeEntry, .writeExit)
  | .queue => (.blockInsert, .blockIssue)
  | .disk => (.blockIssue, .blockComplete)
  | .network => (.remoteIssue, .remoteComplete)

theorem ofStage_readOrWrite_iff {stage : Stage} {direction : Direction} :
    ofStage stage direction = .read ∨ ofStage stage direction = .write ↔ stage = .syscall := by
  cases stage <;> cases direction <;> simp [ofStage]

/-- Beyond system calls, the direction has no part in the slot. -/
theorem ofStage_congr {stage : Stage} (beyond : stage ≠ .syscall) (direction other : Direction) :
    ofStage stage direction = ofStage stage other := by
  cases stage with
  | syscall => exact absurd rfl beyond
  | queue => rfl
  | device => rfl
  | remote => rfl

end Slot

/-- Two events enclose what a slot measures: they come from the probes of the slot, and both from one task
or, beyond system calls, both from one handle. -/
structure Encloses (slot : Slot) (first last : Event) : Prop where
  opens : first.probe = slot.probes.1
  closes : last.probe = slot.probes.2
  request : if slot = .read ∨ slot = .write then first.tid = last.tid else first.handle = last.handle

namespace Probe

/-- The start of a stage comes from the probe that opens the slot of the stage and of the direction that the
probe fixes. -/
theorem eq_of_starts {probe : Probe} {stage : Stage} (starts : (stage, .start) ∈ probe.transitions)
    (noted : Direction) :
    probe = (Slot.ofStage stage (probe.impliedDirection?.getD noted)).probes.1 := by
  cases probe <;> simp [transitions] at starts <;> subst starts <;> rfl

theorem eq_of_finishes {probe : Probe} {stage : Stage} (finishes : (stage, .finish) ∈ probe.transitions)
    (noted : Direction) :
    probe = (Slot.ofStage stage (probe.impliedDirection?.getD noted)).probes.2 := by
  cases probe <;> simp [transitions] at finishes <;> subst finishes <;> rfl

/-- System calls are matched by task, and nothing else is. -/
theorem taskScoped_of_transition {probe : Probe} {stage : Stage} {edge : Edge}
    (present : (stage, edge) ∈ probe.transitions) : probe.taskScoped = true ↔ stage = .syscall := by
  cases probe <;> simp [transitions] at present <;> grind [taskScoped]

end Probe

namespace Event

/-- The event carries the direction of its probe, if that fixes one. -/
def Directed (event : Event) : Prop :=
  event.probe.impliedDirection?.getD event.direction = event.direction

theorem directed_of_decode {sample : List UInt8} {event : Event} (decoded : Wire.decode sample = .ok event) :
    event.Directed :=
  congrArg Event.direction (Wire.decode_eq_ok_iff.1 decoded).recorded_eq

/-- Two directed events that start and finish a stage for one request enclose a slot of the stage. -/
theorem encloses_of_starts {stage : Stage} {first last : Event} (directed : first.Directed)
    (directed' : last.Directed) (starts : first.Starts (last.keyAt stage))
    (finishes : last.Finishes (last.keyAt stage)) :
    Encloses (Slot.ofStage stage first.direction) first last := by
  have present : (stage, Edge.start) ∈ first.probe.transitions := starts.1
  have present' : (stage, Edge.finish) ∈ last.probe.transitions := finishes.1
  have opens := Probe.eq_of_starts present first.direction
  have closes := Probe.eq_of_finishes present' last.direction
  rw [directed] at opens
  rw [directed'] at closes
  have byTask := Probe.taskScoped_of_transition present
  have byTask' := Probe.taskScoped_of_transition present'
  have request : RequestKey.ofEvent first = RequestKey.ofEvent last := starts.2
  rw [RequestKey.ofEvent, RequestKey.ofEvent] at request
  by_cases syscall : stage = .syscall
  · -- the key holds the direction, so both events have the same
    rw [if_pos (byTask.2 syscall), if_pos (byTask'.2 syscall)] at request
    injection request with task direction
    refine ⟨opens, by rw [closes, direction], ?_⟩
    rw [if_pos (Slot.ofStage_readOrWrite_iff.2 syscall)]
    exact task
  · rw [if_neg (mt byTask.1 syscall), if_neg (mt byTask'.1 syscall)] at request
    injection request with handle
    have slot := Slot.ofStage_congr syscall last.direction first.direction
    refine ⟨opens, by rw [closes, slot], ?_⟩
    rw [if_neg (mt Slot.ofStage_readOrWrite_iff.1 syscall)]
    exact handle

end Event

/-- What is fed to a collector that takes its events from samples. -/
inductive Feed where
  | sample (window : Window) (bytes : List UInt8)
  | sweep
  | refresh (listed : List EntityInfo)
  | drain

namespace Feed

/-- What the collector is asked to do; a sample that does not decode is passed over. -/
def call? : Feed → Option Collector.Call
  | .sample window bytes => (Wire.decode bytes).toOption.map (.process window)
  | .sweep => some .sweep
  | .refresh listed => some (.refresh listed)
  | .drain => some .drain

theorem process_of_mem {feeds : List Feed} {window : Window} {event : Event}
    (called : Collector.Call.process window event ∈ feeds.filterMap call?) :
    ∃ bytes, .sample window bytes ∈ feeds ∧ Wire.decode bytes = .ok event := by
  obtain ⟨feed, fed, call⟩ := List.mem_filterMap.1 called
  cases feed with
  | sample window' bytes =>
    obtain ⟨event', decoded, same⟩ := Option.map_eq_some_iff.1 call
    cases same
    refine ⟨bytes, fed, ?_⟩
    cases read : Wire.decode bytes with
    | ok event => rw [read] at decoded; cases decoded; rfl
    | error cause => rw [read] at decoded; cases decoded
  | sweep => cases call
  | refresh listed => cases call
  | drain => cases call

end Feed

namespace CollectorRun

/-- Whatever samples are fed to a collector, each operation that it records comes from two events decoded
from them that enclose the slot of the operation, the first one the latest start of its request. The
counters of that slot of the operation's entity take it in, and no others change. -/
theorem recorded_between_enclosing_probes (horizon : Duration) (maxPending : Nat) (index : OwnerIndex)
    (feeds : List Feed) :
    let run := of horizon maxPending index (feeds.filterMap Feed.call?)
    ∀ j last operation, run.handled[j]? = some last → last.operation = some operation →
      ∃ i first, run.Pairs operation.stage i j first last ∧
        (∀ event ∈ [first.event, last.event], ∃ window bytes,
          .sample window bytes ∈ feeds ∧ Wire.decode bytes = .ok event) ∧
        Encloses operation.slot first.event last.event ∧
        operation.Spans operation.stage first.assigned last.assigned ∧
        ∀ entity slot, (last.recorded.countersOf entity).get slot =
          if entity = operation.entity ∧ slot = operation.slot then
            ((last.window.countersOf entity).get slot).recordOperation operation
          else (last.window.countersOf entity).get slot := by
  intro run j last operation last_at completed
  have decoded {i : Nat} {handling : Handling} (present : run.handled[i]? = some handling) :
      ∃ window bytes, .sample window bytes ∈ feeds ∧ Wire.decode bytes = .ok handling.event :=
    @event_of_calls _ _ _ _
      (fun event => ∃ window bytes, .sample window bytes ∈ feeds ∧ Wire.decode bytes = .ok event)
      (fun window event called => ⟨window, Feed.process_of_mem called⟩) _ (List.mem_of_getElem? present)
  have directed {i : Nat} {handling : Handling} (present : run.handled[i]? = some handling) :
      handling.event.Directed := by
    obtain ⟨_, _, _, read⟩ := decoded present
    exact Event.directed_of_decode read
  obtain ⟨i, first, pair, spans⟩ := pair_of_operation last_at completed
  have encloses := Event.encloses_of_starts (directed pair.first_at) (directed last_at) pair.starts pair.finishes
  have slot : Slot.ofStage operation.stage first.event.direction = operation.slot := by
    rw [Operation.slot, spans.direction, Handling.assigned, OwnerIndex.direction_assign]
  refine ⟨i, first, pair, ?_, slot ▸ encloses, spans, (Handling.records_iff.2 completed).counters⟩
  intro event member
  rcases List.mem_cons.1 member with rfl | later
  · exact decoded pair.first_at
  · obtain rfl := List.mem_singleton.1 later
    exact decoded last_at

/-- A read whose records call it a write, with the end of a write of the same task inside it. -/
def miscalled : List Feed :=
  [.refresh [{ name := "a", cgroups := [7] }],
    .sample {} (Wire.encode
      { probe := .readEntry, direction := .write, timestamp := 100, tid := 9, cgroup := 7 }),
    .sample {} (Wire.encode
      { probe := .writeExit, direction := .write, timestamp := 130, tid := 9, cgroup := 7 }),
    .sample {} [1, 2, 3],
    .sweep,
    .sample {} (Wire.encode
      { probe := .readExit, direction := .write, timestamp := 160, tid := 9, bytes := 512 })]

theorem recorded_between_enclosing_probes_miscalled :
    let run := of ⟨1000⟩ 16 {} (miscalled.filterMap Feed.call?)
    run.handled.map (·.operation) = [none, none, some ⟨"a", .read, .syscall, 60, 512, 160⟩] ∧
      ∃ i first last, run.Pairs .syscall i 2 first last ∧ first.event.probe = .readEntry ∧
        last.event.probe = .readExit ∧ first.event.tid = last.event.tid ∧
        ((last.recorded.countersOf "a").get .read).totals = ⟨1, 512, 60, 60⟩ ∧
        ((last.recorded.countersOf "a").get .write).totals = {} := by
  intro run
  obtain ⟨i, first, pair, _, encloses, _, counters⟩ :=
    recorded_between_enclosing_probes ⟨1000⟩ 16 {} miscalled 2 _ ⟨"a", .read, .syscall, 60, 512, 160⟩ rfl rfl
  refine ⟨rfl, i, first, _, pair, encloses.opens, encloses.closes, encloses.request, ?_, ?_⟩
  · rw [counters]
    rfl
  · rw [counters]
    rfl

-- events that were not decoded make the pair that `miscalled` does not make
example :
    let correlator := Correlator.new ⟨1000⟩ 16
    let entered := correlator.observe
      { probe := .readEntry, direction := .write, timestamp := 100, tid := 9, entity := some "a" }
    (entered.1.observe { probe := .writeExit, direction := .write, timestamp := 130, tid := 9 }).2 =
      some ⟨"a", .write, .syscall, 30, 0, 130⟩ := by decide

end CollectorRun

end StorageTrace
