import Mathlib.Data.UInt
import StorageTrace.Proofs.Correlation.Run

/-! # Every start and every finish is accounted for

A start that is no longer waiting was matched, skewed, unattributed, replaced, expired or refused; a
finish was matched, unmatched, skewed or unattributed. Each call changes the counts and the size of
the table by exactly the transitions that it brings, so both balances hold after every run, whenever
the counts are read and set back to zero. Counts are words, so the balances hold modulo their size.
-/

namespace StorageTrace

/-- How many transitions of one kind some events have. -/
def transitionCount (edge : Edge) (events : List Event) : Nat :=
  (events.flatMap (·.probe.transitions)).countP fun transition => transition.2 = edge

theorem transitionCount_append (edge : Edge) (left right : List Event) :
    transitionCount edge (left ++ right) = transitionCount edge left + transitionCount edge right := by
  simp only [transitionCount, List.flatMap_append, List.countP_append]

-- the issue of a block request finishes its queue stage and starts its device stage
example : transitionCount .finish [{ probe := .blockIssue }] = 1 ∧
    transitionCount .start [{ probe := .blockIssue }] = 1 := by decide

namespace Correlator

/-- What has become of finishes. -/
def finishesCounted (correlator : Correlator) : UInt64 :=
  correlator.counts.matched + correlator.counts.unmatched + correlator.counts.skewed +
    correlator.counts.unattributed

/-- Where starts are or have gone. -/
def startsCounted (correlator : Correlator) : UInt64 :=
  UInt64.ofNat correlator.pending.size + correlator.counts.matched + correlator.counts.skewed +
    correlator.counts.unattributed + correlator.counts.replaced + correlator.counts.expired +
    correlator.counts.overflow

/-- A change of the correlator accounts for so many finishes, starts and completed operations. -/
structure Accounts (before after : Correlator) (finishes starts completed : Nat) : Prop where
  finishes : after.finishesCounted = before.finishesCounted + UInt64.ofNat finishes
  starts : after.startsCounted = before.startsCounted + UInt64.ofNat starts
  completed : after.counts.matched = before.counts.matched + UInt64.ofNat completed

namespace Accounts

variable {first second third : Correlator}
variable {finishes finishes' starts starts' completed completed' : Nat}

theorem trans (left : Accounts first second finishes starts completed)
    (right : Accounts second third finishes' starts' completed') :
    Accounts first third (finishes + finishes') (starts + starts') (completed + completed') where
  finishes := by rw [right.finishes, left.finishes, UInt64.ofNat_add, UInt64.add_assoc]
  starts := by rw [right.starts, left.starts, UInt64.ofNat_add, UInt64.add_assoc]
  completed := by rw [right.completed, left.completed, UInt64.ofNat_add, UInt64.add_assoc]

/-- A change that accounts for nothing does not show before another. -/
theorem before (quiet : Accounts first second 0 0 0)
    (change : Accounts second third finishes starts completed) :
    Accounts first third finishes starts completed := by
  simpa using quiet.trans change

end Accounts

variable (correlator : Correlator)

theorem accounts_sweep : Accounts correlator correlator.sweep.1 0 0 0 where
  finishes := by simp [finishesCounted, sweep]
  starts := by
    have size := congrArg UInt64.ofNat correlator.size_sweep
    rw [UInt64.ofNat_add] at size
    unfold startsCounted
    rw [← size]
    simp only [sweep]
    grind
  completed := by simp [sweep]

theorem accounts_makeRoom : Accounts correlator correlator.makeRoom 0 0 0 := by
  unfold makeRoom
  split
  · exact correlator.accounts_sweep
  · exact ⟨by simp, by simp, by simp⟩

theorem accounts_start (stage : Stage) (event : Event) :
    Accounts correlator (correlator.start stage event) 0 1 0 := by
  have room := correlator.accounts_makeRoom
  rcases correlator.start_cases stage event with
    ⟨present, same⟩ | ⟨absent, _, same⟩ | ⟨_, _, same⟩ <;> rw [same]
  · constructor
    · simp [finishesCounted]
    · simp only [startsCounted, Table.size_insert, if_pos present]
      grind
    · simp
  · refine room.before ⟨by simp [finishesCounted], ?_, by simp⟩
    have absent' := correlator.contains_makeRoom absent
    have size := congrArg UInt64.ofNat
      (correlator.makeRoom.pending.size_insert (event.keyAt stage) (.ofEvent event))
    rw [if_neg (by simp [absent']), UInt64.ofNat_add] at size
    simp only [startsCounted, size]
    grind
  · refine room.before ⟨by simp [finishesCounted], ?_, by simp⟩
    simp only [startsCounted]
    grind

theorem accounts_finish (stage : Stage) (event : Event) :
    Accounts correlator (correlator.finish stage event).1 1 0
      (correlator.finish stage event).2.toList.length := by
  rcases correlator.finish_cases stage event with
    ⟨_, same⟩ | ⟨start, found, rest⟩
  · rw [same]
    constructor
    · simp only [finishesCounted]
      grind
    · simp [startsCounted]
    · simp
  · have present := (Table.contains_iff _ _).2 ⟨start, found⟩
    have size := congrArg UInt64.ofNat (correlator.pending.size_erase _ present)
    rw [UInt64.ofNat_add] at size
    rcases rest with ⟨_, same⟩ | ⟨_, _, same⟩ | ⟨_, _, _, same⟩ <;> rw [same]
    all_goals
      constructor
      · simp only [finishesCounted]
        grind
      · simp only [startsCounted, ← size]
        grind
      · simp

/-- An event accounts for its own transitions and for the operation that it completes. -/
theorem accounts_observe (event : Event) :
    Accounts correlator (correlator.observe event).1 (transitionCount .finish [event])
      (transitionCount .start [event]) (correlator.observe event).2.toList.length := by
  have advanced : Accounts correlator (correlator.advance event) 0 0 0 :=
    ⟨by simp [finishesCounted, advance], by simp [startsCounted, advance], by simp [advance]⟩
  refine advanced.before ?_
  rcases correlator.observe_cases event with
    ⟨stage, shape, same⟩ | ⟨stage, shape, same⟩ | ⟨stage, next, _, shape, same⟩ <;> rw [same]
  · simpa [transitionCount, shape] using (correlator.advance event).accounts_start stage event
  · simpa [transitionCount, shape] using (correlator.advance event).accounts_finish stage event
  · have finished := (correlator.advance event).accounts_finish stage event
    have started := ((correlator.advance event).finish stage event).1.accounts_start next event
    simpa [transitionCount, shape] using finished.trans started

end Correlator

namespace Run

/-- A count over a whole run: all readings of it, and what has been counted since the last one. -/
def total (run : Run) (count : OutcomeCounts → UInt64) : UInt64 :=
  (run.drained.map count).sum + count run.correlator.counts

/-- How many events completed an operation. -/
def completions (run : Run) : Nat := run.operations.countP Option.isSome

/-- Reading the counts and setting them back to zero changes no count over the run. -/
theorem total_drain (run : Run) (count : OutcomeCounts → UInt64) (zero : count {} = 0) :
    (run.step .drain).total count = run.total count := by
  change ((run.drained ++ [run.correlator.counts]).map count).sum + count {} = _
  rw [zero, UInt64.add_zero, List.map_append, List.sum_append, List.map_singleton, List.sum_singleton]
  rfl

/-- The counts over a run agree with the transitions of its events. -/
structure Balanced (run : Run) : Prop where
  finishes : UInt64.ofNat (transitionCount .finish run.events) =
    run.total (·.matched) + run.total (·.unmatched) + run.total (·.skewed) + run.total (·.unattributed)
  starts : UInt64.ofNat (transitionCount .start run.events) =
    UInt64.ofNat run.correlator.pending.size + run.total (·.matched) + run.total (·.skewed) +
      run.total (·.unattributed) + run.total (·.replaced) + run.total (·.expired) +
      run.total (·.overflow)
  completed : run.total (·.matched) = UInt64.ofNat run.completions

/-- A change of the correlator carries the balance on to what it accounts for. -/
theorem Balanced.advance {run next : Run} {finishes starts completed : Nat} (balanced : run.Balanced)
    (drained : next.drained = run.drained)
    (accounts : Correlator.Accounts run.correlator next.correlator finishes starts completed)
    (moreFinishes :
      transitionCount .finish next.events = transitionCount .finish run.events + finishes)
    (moreStarts : transitionCount .start next.events = transitionCount .start run.events + starts)
    (moreCompleted : next.completions = run.completions + completed) : next.Balanced := by
  obtain ⟨finishesBefore, startsBefore, completedBefore⟩ := balanced
  obtain ⟨finishesChange, startsChange, completedChange⟩ := accounts
  unfold total at finishesBefore startsBefore completedBefore
  unfold Correlator.finishesCounted at finishesChange
  unfold Correlator.startsCounted at startsChange
  constructor
  · rw [moreFinishes, UInt64.ofNat_add, finishesBefore]
    simp only [total, drained]
    grind
  · rw [moreStarts, UInt64.ofNat_add, startsBefore]
    simp only [total, drained]
    grind
  · rw [moreCompleted, UInt64.ofNat_add, ← completedBefore]
    simp only [total, drained]
    grind

theorem Balanced.step {run : Run} (balanced : run.Balanced) (call : Call) :
    (run.step call).Balanced := by
  cases call with
  | observe event =>
    have events : (run.step (.observe event)).events = run.events ++ [event] := events_step run _
    refine balanced.advance rfl (run.correlator.accounts_observe event) ?_ ?_ ?_
    · rw [events, transitionCount_append]
    · rw [events, transitionCount_append]
    · have extended : (run.step (.observe event)).operations =
          run.operations ++ [(run.correlator.observe event).2] := List.map_append
      rw [completions, extended, List.countP_append]
      congr 1
      cases (run.correlator.observe event).2 <;> rfl
  | sweep => exact balanced.advance rfl run.correlator.accounts_sweep rfl rfl rfl
  | drain =>
    obtain ⟨finishes, starts, completed⟩ := balanced
    constructor <;> simp only [total_drain]
    · exact finishes
    · exact starts
    · exact completed

/-- In every run, whatever the horizon and the bound of the table, each finish and each start is
counted once, except that a start may still be waiting, and every match is an operation. -/
theorem transitions_accounted (horizon : Duration) (maxPending : Nat) (calls : List Call) :
    let run := of horizon maxPending calls
    let events := calls.filterMap Call.event?
    UInt64.ofNat (transitionCount .finish events) =
        run.total (·.matched) + run.total (·.unmatched) + run.total (·.skewed) +
          run.total (·.unattributed) ∧
      UInt64.ofNat (transitionCount .start events) =
        UInt64.ofNat run.correlator.pending.size + run.total (·.matched) + run.total (·.skewed) +
          run.total (·.unattributed) + run.total (·.replaced) + run.total (·.expired) +
          run.total (·.overflow) ∧
      run.total (·.matched) = UInt64.ofNat run.completions := by
  have fresh : Balanced { correlator := Correlator.new horizon maxPending } := ⟨rfl, rfl, rfl⟩
  have balanced := of_induction Balanced fresh (fun _ call before => before.step call) calls
  have events : (of horizon maxPending calls).events = calls.filterMap Call.event? := events_of calls
  exact ⟨events ▸ balanced.finishes, events ▸ balanced.starts, balanced.completed⟩

end Run

end StorageTrace
