import StorageTrace.Monitor

/-! # Skipped cycles

A cycle whose listing fails is skipped: it is counted, and apart from that the monitor is the same as
before. So the window goes on filling, and the next cycle that succeeds publishes everything. A run with
skipped cycles differs from the run without them in nothing but the count of the skipped ones.
-/

namespace StorageTrace

namespace Registry

/-- The left registry counts so many skipped cycles more and agrees in everything else. -/
def Ahead (skips : Nat) (left right : Registry Nat) : Prop :=
  ∀ metric label, left.value metric label =
    right.value metric label + if metric = .cyclesSkipped ∧ label = "" then skips else 0

namespace Ahead

variable {skips : Nat} {left right : Registry Nat}

theorem refl (registry : Registry Nat) : Ahead 0 registry registry := by
  intro metric label
  rw [ite_self, Nat.add_zero]

theorem add (ahead : Ahead skips left right) (metric : Metric) (label : String) (amount : Nat) :
    Ahead skips (left.add metric label amount) (right.add metric label amount) := by
  intro other otherLabel
  rw [Registry.add, Registry.add, value_set, value_set]
  by_cases same : other = metric ∧ otherLabel = label
  · obtain ⟨rfl, rfl⟩ := same
    rw [if_pos ⟨rfl, rfl⟩, if_pos ⟨rfl, rfl⟩, ahead]
    omega
  · rw [if_neg same, if_neg same, ahead]

theorem set (ahead : Ahead skips left right) (metric : Metric) (unskipped : metric ≠ .cyclesSkipped)
    (label : String) (amount : Nat) :
    Ahead skips (left.set metric label amount) (right.set metric label amount) := by
  intro other otherLabel
  rw [value_set, value_set]
  by_cases same : other = metric ∧ otherLabel = label
  · obtain ⟨rfl, rfl⟩ := same
    have elsewhere : ¬ (other = .cyclesSkipped ∧ otherLabel = "") := fun both => unskipped both.1
    rw [if_pos ⟨rfl, rfl⟩, if_pos ⟨rfl, rfl⟩, if_neg elsewhere]
    rfl
  · rw [if_neg same, if_neg same, ahead]

/-- The left registry counts one more skipped cycle. -/
theorem skip (ahead : Ahead skips left right) : Ahead (skips + 1) (left.add .cyclesSkipped "" 1) right := by
  intro metric label
  rw [Registry.add, value_set]
  by_cases skipped : metric = .cyclesSkipped ∧ label = ""
  · obtain ⟨rfl, rfl⟩ := skipped
    rw [if_pos ⟨rfl, rfl⟩, if_pos ⟨rfl, rfl⟩, ahead, if_pos ⟨rfl, rfl⟩, Nat.add_assoc]
  · rw [if_neg skipped, if_neg skipped, ahead, if_neg skipped]

/-- What each entry of a list preserves is preserved by the whole list. -/
theorem foldl {α : Type} (ahead : Ahead skips left right) (entries : List α)
    {change : Registry Nat → α → Registry Nat}
    (preserved : ∀ left right entry, Ahead skips left right →
      Ahead skips (change left entry) (change right entry)) :
    Ahead skips (entries.foldl change left) (entries.foldl change right) := by
  induction entries generalizing left right with
  | nil => exact ahead
  | cons entry rest ih => exact ih (preserved left right entry ahead)

theorem countOutcomes (ahead : Ahead skips left right) (counts : OutcomeCounts) :
    Ahead skips (Monitor.countOutcomes left counts) (Monitor.countOutcomes right counts) :=
  ahead.foldl _ fun _ _ entry before => before.add entry.1 "" entry.2.toNat

theorem countCompleted (ahead : Ahead skips left right) (operation : Operation) :
    Ahead skips (Monitor.countCompleted left operation) (Monitor.countCompleted right operation) := by
  rw [Monitor.countCompleted_eq, Monitor.countCompleted_eq]
  exact ahead.add .operationsCompleted operation.stage.name 1

theorem showSummary (ahead : Ahead skips left right) (summary : Summary) :
    Ahead skips (Monitor.showSummary left summary) (Monitor.showSummary right summary) := by
  have entities := ahead.set .entitiesTracked (by decide) "" summary.entities
  have sizes := entities.set .anomaliesActive (by decide) "" summary.anomalies
  exact sizes.foldl _ fun _ _ entry before =>
    before.set .entitiesByBottleneck (by decide) entry.1.name entry.2

end Ahead

end Registry

namespace Monitor

/-- One use of a monitor that runs. -/
inductive Call where
  | take (event : Event)
  | sweep
  | cycle (directory : Directory) (clock : Duration) (now : Instant)

namespace Call

/-- The call is a cycle whose listing fails. -/
def fails (scope : String) : Call → Bool
  | .take _ | .sweep => false
  | .cycle directory _ _ => !(directory.list scope).toBool

end Call

/-- The monitor after one use. -/
def answer (monitor : Monitor) : Call → Monitor
  | .take event => monitor.take event
  | .sweep => monitor.sweep
  | .cycle directory clock now => (monitor.cycle directory clock now).1

/-- The monitor after some uses. -/
def run (monitor : Monitor) (calls : List Call) : Monitor := calls.foldl answer monitor

/-- What a cycle that succeeds brings out: the totals of the window that it rotates, the snapshots with the
number of retired entities, the view, and the outcomes that it drains. -/
structure Publication where
  totals : List (String × EntityTotals)
  report : CycleReport
  view : View
  drained : OutcomeCounts

/-- What a call publishes, if it is a cycle that succeeds. -/
def publication? (monitor : Monitor) : Call → Option Publication
  | .take _ | .sweep => none
  | .cycle directory clock now =>
    let (next, outcome) := monitor.cycle directory clock now
    outcome.toOption.map fun report =>
      { totals := monitor.pipeline.window.totals
        report
        view := next.view
        drained := (monitor.pipeline.cycle directory monitor.scope clock now).1.drain.1 }

/-- What the calls of a run publish. -/
def publications (monitor : Monitor) : List Call → List Publication
  | [] => []
  | call :: rest => (monitor.publication? call).toList ++ (monitor.answer call).publications rest

/-! ## One cycle -/

section Cycle

variable (monitor : Monitor) {directory : Directory} (clock : Duration) (now : Instant)

theorem cycle_of_error {cause : ListingError} (failed : directory.list monitor.scope = .error cause) :
    monitor.cycle directory clock now =
      ({ monitor with metrics := monitor.metrics.add .cyclesSkipped "" 1 }, .error cause) := by
  simp only [cycle, Pipeline.cycle, failed]

theorem cycle_of_ok {listed : List EntityInfo} (succeeded : directory.list monitor.scope = .ok listed) :
    monitor.cycle directory clock now =
      let published := (monitor.pipeline.refresh listed).publish listed clock now
      let drained := published.1.drain
      ({ monitor with
          pipeline := drained.2
          metrics := showSummary (countOutcomes (monitor.metrics.add .cyclesTotal "" 1) drained.1)
            drained.2.analyzer.view.summary },
        .ok published.2) := by
  simp only [cycle, Pipeline.cycle, succeeded]

theorem answer_scope (call : Call) : (monitor.answer call).scope = monitor.scope := by
  cases call with
  | take event => rfl
  | sweep => rfl
  | cycle directory clock now =>
    rw [answer, cycle]
    split
    · rfl
    · rfl

theorem publication?_of_ok {listed : List EntityInfo}
    (succeeded : directory.list monitor.scope = .ok listed) :
    monitor.publication? (.cycle directory clock now) =
      let published := (monitor.pipeline.refresh listed).publish listed clock now
      some
        { totals := monitor.pipeline.window.totals
          report := published.2
          view := published.1.analyzer.view
          drained := published.1.drain.1 } := by
  simp only [publication?, cycle, Pipeline.cycle, succeeded]
  rfl

end Cycle

/-! ## Two monitors side by side -/

/-- The left monitor counts so many skipped cycles more and is the same in everything else. -/
def Ahead (skips : Nat) (left right : Monitor) : Prop :=
  ∃ metrics, left = { right with metrics } ∧ Registry.Ahead skips metrics right.metrics

namespace Ahead

variable {skips : Nat} {left right : Monitor}

/-- A skipped cycle puts the left monitor ahead by one more. -/
theorem skip (ahead : Ahead skips left right) {call : Call} (failed : call.fails left.scope = true) :
    Ahead (skips + 1) (left.answer call) right ∧ left.publication? call = none := by
  obtain ⟨metrics, rfl, counted⟩ := ahead
  cases call with
  | take event => cases failed
  | sweep => cases failed
  | cycle directory clock now =>
    cases listing : directory.list right.scope with
    | ok listed => simp [Call.fails, listing, Except.toBool] at failed
    | error cause =>
      have skipped := cycle_of_error { right with metrics } clock now listing
      refine ⟨⟨_, ?_, counted.skip⟩, ?_⟩
      · rw [answer, skipped]
      · rw [publication?, skipped]
        rfl

/-- Any other use leaves it ahead by as many, and both publish the same. -/
theorem answer (ahead : Ahead skips left right) {call : Call} (passed : call.fails left.scope = false) :
    Ahead skips (left.answer call) (right.answer call) ∧
      left.publication? call = right.publication? call := by
  obtain ⟨metrics, rfl, counted⟩ := ahead
  cases call with
  | take event =>
    exact ⟨⟨_, rfl, counted.foldl _ fun _ _ completed before => before.countCompleted completed⟩, rfl⟩
  | sweep =>
    exact ⟨⟨_, rfl, counted.set .pendingStarts (by decide) "" right.pipeline.sweep.1.pendingCount⟩, rfl⟩
  | cycle directory clock now =>
    cases listing : directory.list right.scope with
    | error cause => simp [Call.fails, listing, Except.toBool] at passed
    | ok listed =>
      have published := cycle_of_ok { right with metrics } clock now listing
      have published' := cycle_of_ok right clock now listing
      have total := counted.add .cyclesTotal "" 1
      refine ⟨?_, ?_⟩
      · rw [Monitor.answer, Monitor.answer, published, published']
        exact ⟨_, rfl, (total.countOutcomes _).showSummary _⟩
      · have brought := publication?_of_ok { right with metrics } clock now listing
        exact brought.trans (publication?_of_ok right clock now listing).symm

/-- Leaving the skipped cycles out of a run leaves it behind by as many and publishes the same. -/
theorem run (ahead : Ahead skips left right) (calls : List Call) :
    let kept := calls.filter fun call => !call.fails left.scope
    Ahead (skips + calls.countP (·.fails left.scope)) (left.run calls) (right.run kept) ∧
      left.publications calls = right.publications kept := by
  induction calls generalizing skips left right with
  | nil => exact ⟨ahead, rfl⟩
  | cons call rest ih =>
    cases failed : call.fails left.scope with
    | true =>
      obtain ⟨further, unpublished⟩ := ahead.skip failed
      obtain ⟨ran, published⟩ := ih further
      rw [answer_scope] at ran published
      rw [Nat.add_right_comm] at ran
      rw [List.filter_cons_of_neg (by simp [failed]), List.countP_cons_of_pos failed]
      refine ⟨ran, ?_⟩
      rw [publications, unpublished, published]
      rfl
    | false =>
      obtain ⟨level, same⟩ := ahead.answer failed
      obtain ⟨ran, published⟩ := ih level
      rw [answer_scope] at ran published
      rw [List.filter_cons_of_pos (by simp [failed]), List.countP_cons_of_neg (by simp [failed])]
      refine ⟨ran, ?_⟩
      rw [publications, publications, same, published]

end Ahead

/-- The listing of a cycle fails: the monitor counts that the cycle was skipped and is otherwise as it was,
with the same index, window, carried latencies, history, view and counts of outcomes. So in every run, leave
out the cycles whose listing fails: the other cycles publish the same, and at the end the monitor is the
same but for the count of skipped cycles. -/
theorem skipped_cycles_do_not_show (monitor : Monitor) :
    (∀ directory clock now cause, directory.list monitor.scope = .error cause →
      monitor.cycle directory clock now =
        ({ monitor with metrics := monitor.metrics.add .cyclesSkipped "" 1 }, .error cause)) ∧
    ∀ calls, let kept := calls.filter fun call => !call.fails monitor.scope
      monitor.publications calls = monitor.publications kept ∧
      (monitor.run calls).pipeline = (monitor.run kept).pipeline ∧
      ∀ metric label, (monitor.run calls).metrics.value metric label =
        (monitor.run kept).metrics.value metric label +
          if metric = .cyclesSkipped ∧ label = "" then calls.countP (·.fails monitor.scope) else 0 := by
  refine ⟨fun _ clock now _ failed => monitor.cycle_of_error clock now failed, ?_⟩
  intro calls kept
  have level : Ahead 0 monitor monitor := ⟨_, rfl, Registry.Ahead.refl _⟩
  obtain ⟨⟨metrics, same, counted⟩, published⟩ := level.run calls
  rw [Nat.zero_add] at counted
  refine ⟨published, ?_, ?_⟩
  · rw [same]
  · intro metric label
    rw [same]
    exact counted metric label

/-- A request that starts before one skipped cycle and completes after it, before another. -/
def troubled : List Call :=
  [.take { probe := .remoteIssue, timestamp := 10, handle := 1, entity := some "db" },
    .cycle (.failing "orders" "unreachable") ⟨5⟩ ⟨100⟩,
    .take { probe := .remoteComplete, timestamp := 30, handle := 1 }, .sweep,
    .cycle (.failing "orders" "unreachable") ⟨10⟩ ⟨105⟩, .cycle (.fixed []) ⟨15⟩ ⟨110⟩]

theorem skipped_cycles_do_not_show_troubled :
    let monitor := new {} {}
    let untroubled := [troubled[0], troubled[2], troubled[3], troubled[5]]
    (monitor.cycle (.failing "orders" "unreachable") ⟨5⟩ ⟨100⟩).1.pipeline = monitor.pipeline ∧
      monitor.publications troubled = monitor.publications untroubled ∧
      (monitor.publications troubled).map (·.drained.matched) = [1] ∧
      (monitor.run troubled).metrics.value .cyclesSkipped =
        (monitor.run untroubled).metrics.value .cyclesSkipped + 2 := by
  intro monitor untroubled
  obtain ⟨skipped, without⟩ := skipped_cycles_do_not_show monitor
  have unchanged := skipped (.failing "orders" "unreachable") ⟨5⟩ ⟨100⟩ (.unavailable "unreachable") rfl
  obtain ⟨published, _, counted⟩ := without troubled
  exact ⟨by rw [unchanged], published, rfl, counted .cyclesSkipped ""⟩

end Monitor

end StorageTrace
