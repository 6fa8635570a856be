import StorageTrace.Proofs.Framing.Grammar

/-! # What a reader of frames delivers

Reading a stream delivers what the samples of its frames deliver in order, and a report to every error
handler if a length above the limit comes next. A stream made of frames is therefore read as its samples
are replayed, and reading a source again delivers the same again.
-/

namespace StorageTrace

namespace Audience

open StorageTrace.Frame

variable (audience : Audience)

/-- A failure of the source reads the same for every error handler, and each is told once. -/
theorem report_source (text : String) :
    audience.report (.source text) =
      (List.range audience.errorHandlers).map fun handler => .failure handler (.source text) := by
  unfold report
  split
  · rename_i handlerless
    rw [handlerless]
    rfl
  · rename_i others count
    rw [count, List.range_succ, List.map_append]
    rfl

/-- What is read goes by what stands at the head of the stream. -/
theorem read_eq (stream : List UInt8) :
    audience.read stream =
      match head stream with
      | .ended => []
      | .oversized length => audience.report (.source s!"sample length {length} exceeds {maxLength}")
      | .sample sample later => audience.deliver sample ++ audience.read later := by
  rw [read]
  split
  · rename_i found
    rw [found]
  · rename_i found
    rw [found]
  · rename_i found
    rw [found]

theorem read_of_sample {stream sample later : List UInt8} (found : head stream = .sample sample later) :
    audience.read stream = audience.deliver sample ++ audience.read later := by
  rw [read_eq, found]

theorem read_of_unfinished {stream : List UInt8} (unfinished : Unfinished stream) :
    audience.read stream = [] := by
  rw [read_eq, head_of_unfinished unfinished]

theorem read_of_oversized {stream : List UInt8} {length : Nat} (oversized : Oversized stream length) :
    audience.read stream =
      (List.range audience.errorHandlers).map fun handler =>
        .failure handler (.source s!"sample length {length} exceeds {maxLength}") := by
  rw [read_eq, head_of_oversized oversized]
  exact audience.report_source _

theorem deliverAll_cons (sample : List UInt8) (samples : List (List UInt8)) :
    audience.deliverAll (sample :: samples) = audience.deliver sample ++ audience.deliverAll samples :=
  List.flatMap_cons

/-- Whole frames deliver what their samples deliver, and reading goes on behind them. -/
theorem read_encodeAll (samples : List (List UInt8)) (after : List UInt8)
    (fits : ∀ sample ∈ samples, sample.length ≤ maxLength) :
    audience.read (encodeAll samples ++ after) = audience.deliverAll samples ++ audience.read after := by
  induction samples with
  | nil => rfl
  | cons sample samples ih =>
    have first := head_encode sample (encodeAll samples ++ after) (fits sample List.mem_cons_self)
    have others := ih fun other member => fits other (List.mem_cons_of_mem _ member)
    rw [encodeAll_cons, List.append_assoc, audience.read_of_sample first, others, deliverAll_cons,
      List.append_assoc]

theorem readLoop_reopen (source : Source) (passes : Nat) :
    audience.readLoop source true passes = (List.replicate passes (audience.pass source)).flatten := by
  induction passes with
  | zero => rfl
  | succ passes ih => rw [readLoop, if_pos rfl, ih, List.replicate_succ, List.flatten_cons]

/-- A source that is read but once need not be reopened for it. -/
theorem readLoop_passes (source : Source) (passes : Nat) :
    audience.readLoop source (1 < passes) passes =
      (List.replicate passes (audience.pass source)).flatten := by
  by_cases more : 1 < passes
  · rw [decide_eq_true more]
    exact audience.readLoop_reopen source passes
  · rcases Nat.le_one_iff_eq_zero_or_eq_one.1 (Nat.not_lt.1 more) with rfl | rfl
    · rfl
    · rfl

/-- One pass over a stream delivers what the samples of its only cut deliver, and behind them nothing if
the stream ends there, or one report to each error handler if a length above the limit comes next. Each
frame is read for itself, whether or not its sample decodes. So the frames of some samples deliver what
a replay of the samples delivers, and some passes deliver that many copies of one. -/
theorem log_follows_frames :
    (∀ stream, ∃ rest, Cut stream (split stream).1 rest ∧
      (∀ samples last, Cut stream samples last → samples = (split stream).1 ∧ last = rest) ∧
      (Unfinished rest → audience.read stream = audience.deliverAll (split stream).1) ∧
      ∀ length, Oversized rest length →
        audience.read stream = audience.deliverAll (split stream).1 ++
          (List.range audience.errorHandlers).map fun handler =>
            .failure handler (.source s!"sample length {length} exceeds {maxLength}")) ∧
    (∀ before sample after,
      (∀ other ∈ before, other.length ≤ maxLength) → sample.length ≤ maxLength →
        audience.read (encodeAll before ++ encode sample ++ after) =
          audience.deliverAll before ++ audience.deliver sample ++ audience.read after) ∧
    (∀ path samples, (∀ sample ∈ samples, sample.length ≤ maxLength) →
      audience.follow path (.bytes (encodeAll samples)) 1 = .ok (audience.replay samples false)) ∧
    ∀ path content passes,
      audience.readLoop (.bytes content) true passes =
        (List.replicate passes (audience.read content)).flatten ∧
      audience.follow path (.bytes content) passes =
        .ok (List.replicate passes (audience.read content)).flatten := by
  refine ⟨?_, ?_, ?_, ?_⟩
  · intro stream
    obtain ⟨rest, cut⟩ := cut_split stream
    have whole : audience.read stream =
        audience.deliverAll (split stream).1 ++ audience.read rest := by
      rw [← audience.read_encodeAll _ _ cut.fits, ← cut.bytes]
    refine ⟨rest, cut, fun samples last other => other.unique cut, ?_, ?_⟩
    · intro unfinished
      rw [whole, audience.read_of_unfinished unfinished, List.append_nil]
    · intro length oversized
      rw [whole, audience.read_of_oversized oversized]
  · intro before sample after fits small
    have found := head_encode sample after small
    rw [List.append_assoc, audience.read_encodeAll _ _ fits, audience.read_of_sample found,
      List.append_assoc]
  · intro path samples fits
    have ended : Unfinished [] := .inl (by decide)
    have whole := audience.read_encodeAll samples [] fits
    rw [List.append_nil, audience.read_of_unfinished ended, List.append_nil] at whole
    have once := audience.readLoop_passes (.bytes (encodeAll samples)) 1
    rw [List.replicate_one, List.flatten_singleton, pass, whole] at once
    exact congrArg Except.ok once
  · intro path content passes
    exact ⟨audience.readLoop_reopen (.bytes content) passes,
      congrArg Except.ok (audience.readLoop_passes (.bytes content) passes)⟩

/-- The event in the middle of `lostFraming`. -/
def remoteIssue : Event := { probe := .remoteIssue, timestamp := 10, handle := 5 }

/-- An empty sample, one of three bytes, one that decodes, and a length above the limit. -/
def lostFraming : List UInt8 :=
  encodeAll [[], [1, 2, 3], Wire.encode remoteIssue] ++ (LittleEndian.ofNat 4 5000 ++ [4, 0, 0, 0])

theorem log_follows_frames_lost_framing :
    ({ eventHandlers := 2, errorHandlers := 2 } : Audience).read lostFraming =
      [.failure 0 (.source "event too short: 0 bytes"), .failure 1 (.decode (.truncated 0)),
        .failure 0 (.source "event too short: 3 bytes"), .failure 1 (.decode (.truncated 3)),
        .event 0 remoteIssue, .event 1 remoteIssue,
        .failure 0 (.source "sample length 5000 exceeds 4096"),
        .failure 1 (.source "sample length 5000 exceeds 4096")] := by
  obtain ⟨rest, cut, unique, _, above⟩ :=
    (log_follows_frames { eventHandlers := 2, errorHandlers := 2 }).1 lostFraming
  have oversized : Oversized (LittleEndian.ofNat 4 5000 ++ [4, 0, 0, 0]) 5000 := by
    refine ⟨by decide, by decide, by decide⟩
  obtain ⟨samples, rfl⟩ := unique [[], [1, 2, 3], Wire.encode remoteIssue]
    (LittleEndian.ofNat 4 5000 ++ [4, 0, 0, 0]) ⟨rfl, by decide, .inr ⟨5000, oversized⟩⟩
  rw [above 5000 oversized, ← samples]
  rfl

end Audience

end StorageTrace
