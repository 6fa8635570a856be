import StorageTrace.Pipeline
import StorageTrace.Proofs.Rotation.Run

/-! # The pipeline as a rotation

The pipeline is the case in which a batch is one event and a cycle reads the old window as soon as a new
one has come into use. Each of its operations is a run of a rotation that shows the same collector and
the same window in use, so what holds of every rotation holds of the pipeline.
-/

namespace StorageTrace

namespace Pipeline

/-- One use of a pipeline. -/
inductive Call where
  | process (event : Event)
  | sweep
  | cycle (directory : Directory) (scope : String) (clock : Duration) (now : Instant)

/-- The pipeline after one use. -/
def answer (pipeline : Pipeline) : Call → Pipeline
  | .process event => (pipeline.process event).1
  | .sweep => pipeline.sweep.1
  | .cycle directory scope clock now => (pipeline.cycle directory scope clock now).1

end Pipeline

namespace Rotation

/-- Between batches, a rotation shows a pipeline with the same collector and the same window in use. -/
structure Shows (rotation : Rotation) (pipeline : Pipeline) : Prop where
  collector : rotation.collector = pipeline.collector
  released : rotation.held = none
  inUse : rotation.inUse? = some pipeline.window

theorem run?_append (rotation : Rotation) (acts more : List Act) :
    rotation.run? (acts ++ more) = (rotation.run? acts).bind fun next => next.run? more := by
  induction acts generalizing rotation with
  | nil => rfl
  | cons act rest ih =>
    rw [List.cons_append, run?, run?, Option.bind_assoc]
    congr 1
    funext next
    exact ih next

namespace Shows

variable {rotation : Rotation} {pipeline : Pipeline}

theorem new (config : Config) :
    (start (Pipeline.new config).collector ⟨0⟩).Shows (Pipeline.new config) := ⟨rfl, rfl, rfl⟩

/-- One event is a batch of its own. -/
theorem process (shows : rotation.Shows pipeline) (event : Event) :
    ∃ next, rotation.run? [.load, .process event, .release] = some next ∧
      next.Shows (pipeline.process event).1 ∧
      next.emitted = rotation.emitted ++ (pipeline.process event).2.toList ∧
      next.readings = rotation.readings := by
  obtain ⟨collector, released, inUse⟩ := shows
  obtain ⟨place, current, present⟩ := Option.bind_eq_some_iff.1 inUse
  obtain ⟨bound, _⟩ := List.getElem?_eq_some_iff.1 present
  refine ⟨{ rotation.processInto place pipeline.window event with held := none },
    ?_, ⟨?_, rfl, ?_⟩, ?_, rfl⟩
  · simp only [run?, step?, released, current, present, processInto, Option.isSome_none,
      Bool.false_eq_true, if_false, Option.map_some, Option.bind_some]
  · rw [processInto, Pipeline.process, collector]
  · simp only [processInto, Pipeline.process, inUse?, current, collector, Option.bind_some]
    exact List.getElem?_set_self bound
  · rw [processInto, Pipeline.process, collector]

/-- A sweep between batches. -/
theorem sweep (shows : rotation.Shows pipeline) :
    ∃ next, rotation.run? [.sweep] = some next ∧ next.Shows pipeline.sweep.1 ∧
      next.emitted = rotation.emitted ∧ next.readings = rotation.readings := by
  obtain ⟨collector, released, inUse⟩ := shows
  exact ⟨_, rfl, ⟨congrArg (fun collector => collector.sweep.1) collector, released, inUse⟩, rfl, rfl⟩

/-- A cycle puts the new index in place, then the new window, and reads the old one. -/
theorem cycle (shows : rotation.Shows pipeline) (listed : List EntityInfo) (clock : Duration)
    (now : Instant) :
    ∃ place next, rotation.run? [.refresh listed, .rotate clock, .read place] = some next ∧
      next.Shows ((pipeline.refresh listed).publish listed clock now).1 ∧
      next.emitted = rotation.emitted ∧
      next.readings = rotation.readings ++ [(place, pipeline.window.totals)] := by
  obtain ⟨collector, released, inUse⟩ := shows
  obtain ⟨place, current, present⟩ := Option.bind_eq_some_iff.1 inUse
  obtain ⟨bound, _⟩ := List.getElem?_eq_some_iff.1 present
  have fresh : some rotation.windows.length ≠ some place := by
    intro same
    cases same
    omega
  refine ⟨place,
    { rotation with
      collector := rotation.collector.refresh listed
      windows := rotation.windows ++ [({ opened := clock } : Window)]
      cell := (rotation.cell.swap rotation.windows.length).2
      readings := rotation.readings ++ [(place, pipeline.window.totals)] },
    ?_, ⟨?_, released, ?_⟩, rfl, rfl⟩
  · have kept : (rotation.windows ++ [({ opened := clock } : Window)])[place]? = some pipeline.window :=
      (List.getElem?_append_left bound).trans present
    simp only [run?, step?, Cell.swap, released, fresh, kept, reduceCtorEq, or_self, if_false,
      Option.map_some, Option.bind_some]
  · exact congrArg (Collector.refresh · listed) collector
  · exact List.getElem?_concat_length

/-- Every use of a pipeline is a run of the rotation that shows it. A cycle whose listing fails is the
run without steps. -/
theorem answer (shows : rotation.Shows pipeline) (call : Pipeline.Call) :
    ∃ acts next, rotation.run? acts = some next ∧ next.Shows (pipeline.answer call) := by
  cases call with
  | process event =>
    obtain ⟨next, ran, shown, _⟩ := shows.process event
    exact ⟨_, next, ran, shown⟩
  | sweep =>
    obtain ⟨next, ran, shown, _⟩ := shows.sweep
    exact ⟨_, next, ran, shown⟩
  | cycle directory scope clock now =>
    cases listing : directory.list scope with
    | error cause =>
      refine ⟨[], rotation, rfl, ?_⟩
      simpa only [Pipeline.answer, Pipeline.cycle, listing] using shows
    | ok listed =>
      obtain ⟨place, next, ran, shown, _⟩ := shows.cycle listed clock now
      refine ⟨_, next, ran, ?_⟩
      simpa only [Pipeline.answer, Pipeline.cycle, listing] using shown

/-- Every run of a pipeline is shown by a run of a rotation. -/
theorem answers (shows : rotation.Shows pipeline) (calls : List Pipeline.Call) :
    ∃ acts next, rotation.run? acts = some next ∧
      next.Shows (calls.foldl Pipeline.answer pipeline) := by
  induction calls generalizing rotation pipeline with
  | nil => exact ⟨[], rotation, rfl, shows⟩
  | cons call rest ih =>
    obtain ⟨acts, next, ran, shown⟩ := shows.answer call
    obtain ⟨more, last, ranOn, lastShown⟩ := ih shown
    refine ⟨acts ++ more, last, ?_, lastShown⟩
    rw [run?_append, ran, Option.bind_some, ranOn]

end Shows

end Rotation

end StorageTrace
