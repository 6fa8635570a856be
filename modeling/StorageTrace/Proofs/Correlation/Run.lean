import StorageTrace.Proofs.Correlation.Transition

/-! # Runs of a correlator

A run hands events over, sweeps, and reads the counts, in any order. It keeps every event together
with the correlator that met it, and every reading of the counts. What all calls preserve holds at the
end of a run and before each of its events.
-/

namespace StorageTrace

/-- One use of a correlator. -/
inductive Call where
  | observe (event : Event)
  | sweep
  | drain

namespace Call

/-- The event that a call hands over. -/
def event? : Call → Option Event
  | .observe event => some event
  | .sweep | .drain => none

end Call

/-- An event and the correlator that met it. -/
structure Observation where
  before : Correlator
  event : Event

namespace Observation

def after (observation : Observation) : Correlator :=
  (observation.before.observe observation.event).1

/-- The operation that the event completed. -/
def operation (observation : Observation) : Option Operation :=
  (observation.before.observe observation.event).2

/-- The event brought a start that a full table refused. -/
def Overflows (observation : Observation) : Prop :=
  observation.after.counts.overflow ≠ observation.before.counts.overflow

instance (observation : Observation) : Decidable observation.Overflows :=
  inferInstanceAs (Decidable (_ ≠ _))

/-- The last of some observations that has a transition for a key. -/
def latest? (observed : List Observation) (key : StageKey) : Option Observation :=
  observed.reverse.find? fun observation => observation.event.Touches key

theorem latest?_snoc (observed : List Observation) (observation : Observation) (key : StageKey) :
    latest? (observed ++ [observation]) key =
      if observation.event.Touches key then some observation else latest? observed key := by
  unfold latest?
  rw [List.reverse_append, List.reverse_singleton, List.singleton_append, List.find?_cons]
  by_cases touched : observation.event.Touches key <;> simp [touched]

/-- The latest observation of a key touches it, and nothing after it does. -/
theorem latest?_eq_some_iff {observed : List Observation} {observation : Observation}
    {key : StageKey} :
    latest? observed key = some observation ↔
      ∃ i : Nat, observed[i]? = some observation ∧ observation.event.Touches key ∧
        ∀ (m : Nat) (later : Observation), i < m → observed[m]? = some later →
          ¬ later.event.Touches key := by
  unfold latest?
  rw [List.find?_eq_some_iff_append]
  simp only [decide_eq_true_eq, Bool.not_eq_true', decide_eq_false_iff_not]
  constructor
  · rintro ⟨touched, after, before, split, quiet⟩
    have order : observed = before.reverse ++ observation :: after.reverse := by
      have reversed := congrArg List.reverse split
      simpa using reversed
    refine ⟨before.reverse.length, by simp [order], touched, ?_⟩
    intro m later above present
    rw [order, List.getElem?_append_right (by omega)] at present
    obtain ⟨gap, rfl⟩ : ∃ gap, m = before.reverse.length + (gap + 1) :=
      ⟨m - before.reverse.length - 1, by omega⟩
    rw [Nat.add_sub_cancel_left, List.getElem?_cons_succ] at present
    exact quiet later (List.mem_reverse.1 (List.mem_of_getElem? present))
  · rintro ⟨i, present, touched, quiet⟩
    refine ⟨touched, (observed.drop (i + 1)).reverse, (observed.take i).reverse, ?_, ?_⟩
    · obtain ⟨bound, rfl⟩ := List.getElem?_eq_some_iff.1 present
      have whole : observed = observed.take i ++ observed[i] :: observed.drop (i + 1) := by
        rw [← List.drop_eq_getElem_cons, List.take_append_drop]
      conv => lhs; rw [whole]
      simp
    · intro later member
      obtain ⟨gap, found⟩ := List.mem_iff_getElem?.1 (List.mem_reverse.1 member)
      rw [List.getElem?_drop] at found
      exact quiet _ later (by omega) found

end Observation

/-- A correlator with the record of its uses. -/
structure Run where
  correlator : Correlator
  observed : List Observation := []
  drained : List OutcomeCounts := []

namespace Run

def step (run : Run) : Call → Run
  | .observe event =>
    { run with
      correlator := (run.correlator.observe event).1
      observed := run.observed ++ [⟨run.correlator, event⟩] }
  | .sweep => { run with correlator := run.correlator.sweep.1 }
  | .drain =>
    { run with
      correlator := run.correlator.drain.2
      drained := run.drained ++ [run.correlator.drain.1] }

/-- The run of some calls on a new correlator. -/
def of (horizon : Duration) (maxPending : Nat) (calls : List Call) : Run :=
  calls.foldl step { correlator := Correlator.new horizon maxPending }

def events (run : Run) : List Event := run.observed.map (·.event)

/-- What each event completed. -/
def operations (run : Run) : List (Option Operation) := run.observed.map (·.operation)

/-- The event at a position completes an operation. -/
def Emits (run : Run) (j : Nat) (operation : Operation) : Prop :=
  run.operations[j]? = some (some operation)

theorem emits_iff {run : Run} {j : Nat} {operation : Operation} :
    run.Emits j operation ↔
      ∃ last, run.observed[j]? = some last ∧ last.operation = some operation := by
  rw [Emits, operations, List.getElem?_map, Option.map_eq_some_iff]

variable {horizon : Duration} {maxPending : Nat}

/-- What holds of a new correlator and is preserved by every call holds of every run. -/
theorem of_induction (holds : Run → Prop)
    (fresh : holds { correlator := Correlator.new horizon maxPending })
    (step : ∀ run call, holds run → holds (run.step call)) (calls : List Call) :
    holds (of horizon maxPending calls) := by
  unfold of
  generalize Run.mk _ _ _ = run at fresh ⊢
  induction calls generalizing run with
  | nil => exact fresh
  | cons call rest ih => exact ih _ (step run call fresh)

theorem events_step (run : Run) (call : Call) :
    (run.step call).events = run.events ++ call.event?.toList := by
  cases call <;> simp [events, step, Call.event?]

/-- A run observes the events that its calls hand over, in their order. -/
theorem events_of (calls : List Call) :
    (of horizon maxPending calls).events = calls.filterMap Call.event? := by
  unfold of
  have general : ∀ run : Run,
      (calls.foldl step run).events = run.events ++ calls.filterMap Call.event? := by
    induction calls with
    | nil => intro run; simp
    | cons call rest ih =>
      intro run
      rw [List.foldl_cons, ih, events_step, List.append_assoc, List.filterMap_cons]
      cases call.event? <;> rfl
  rw [general]
  rfl

/-- A relation between the events so far and the correlator that every call preserves. -/
structure Kept (holds : List Observation → Correlator → Prop) : Prop where
  observe : ∀ observed correlator event, holds observed correlator →
    holds (observed ++ [⟨correlator, event⟩]) (correlator.observe event).1
  sweep : ∀ observed correlator, holds observed correlator → holds observed correlator.sweep.1
  drain : ∀ observed correlator, holds observed correlator → holds observed correlator.drain.2

section Kept

variable {holds : List Observation → Correlator → Prop} (kept : Kept holds)
  (fresh : holds [] (Correlator.new horizon maxPending)) (calls : List Call)

include kept fresh

private theorem holds_throughout :
    holds (of horizon maxPending calls).observed (of horizon maxPending calls).correlator ∧
      ∀ (j : Nat) (observation : Observation),
        (of horizon maxPending calls).observed[j]? = some observation →
        holds ((of horizon maxPending calls).observed.take j) observation.before := by
  refine of_induction (fun run => holds run.observed run.correlator ∧
    ∀ (j : Nat) (observation : Observation), run.observed[j]? = some observation →
      holds (run.observed.take j) observation.before) ⟨fresh, by simp⟩ ?_ calls
  rintro run call ⟨now, before⟩
  cases call with
  | observe event =>
    refine ⟨kept.observe _ _ event now, ?_⟩
    intro j observation present
    change (run.observed ++ [_])[j]? = _ at present
    change holds ((run.observed ++ [_]).take j) _
    rcases Nat.lt_trichotomy j run.observed.length with earlier | rfl | beyond
    · rw [List.getElem?_append_left earlier] at present
      rw [List.take_append_of_le_length (Nat.le_of_lt earlier)]
      exact before j observation present
    · rw [List.getElem?_concat_length] at present
      cases present
      rw [List.take_left]
      exact now
    · rw [List.getElem?_eq_none (by simp; omega)] at present
      cases present
  | sweep => exact ⟨kept.sweep _ _ now, before⟩
  | drain => exact ⟨kept.drain _ _ now, before⟩

/-- A kept relation holds between the events before each event and the correlator that met it. -/
theorem holds_before {j : Nat} {observation : Observation}
    (present : (of horizon maxPending calls).observed[j]? = some observation) :
    holds ((of horizon maxPending calls).observed.take j) observation.before :=
  (holds_throughout kept fresh calls).2 j observation present

end Kept

end Run

end StorageTrace
