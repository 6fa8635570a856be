import StorageTrace.Proofs.Correlation.Capacity

/-! # Sweeps are exact

A sweep compares times as words: the horizon is a word even where the duration that it stands for is not, and
the cutoff stops at zero. Neither shows. No start in the table is later than the watermark, so each has an age,
and a sweep drops just the starts whose age exceeds the horizon as it was given. What it leaves is as it was,
and a sweep right after it finds nothing to do.
-/

namespace StorageTrace

namespace Correlator

variable (correlator : Correlator)

/-- How long before the watermark a start has come. -/
def age (start : PendingStart) : Int := correlator.watermark.toNat - start.timestamp.toNat

theorem age_nonneg_iff (start : PendingStart) :
    0 ≤ correlator.age start ↔ start.timestamp ≤ correlator.watermark := by
  rw [age, UInt64.le_iff_toNat_le]
  omega

theorem cutoff_le_iff {horizon : Duration} (given : correlator.horizon = horizon.saturated)
    (start : PendingStart) :
    correlator.cutoff ≤ start.timestamp ↔ correlator.age start ≤ horizon.nanos := by
  refine (correlator.live_iff_age given start).trans ?_
  rw [age]
  omega

theorem find?_sweep_iff {horizon : Duration} (given : correlator.horizon = horizon.saturated)
    (key : StageKey) (start : PendingStart) :
    correlator.sweep.1.pending.find? key = some start ↔
      correlator.pending.find? key = some start ∧ correlator.age start ≤ horizon.nanos := by
  rw [find?_sweep, Option.filter_eq_some_iff, decide_eq_true_eq, correlator.cutoff_le_iff given]

/-- A sweep counts the starts that are older than the horizon. -/
theorem dropped_sweep {horizon : Duration} (given : correlator.horizon = horizon.saturated) :
    correlator.sweep.2 =
      correlator.pending.entries.countP fun entry => horizon.nanos < correlator.age entry.2 := by
  refine (correlator.pending.size_sub_filter _).trans (List.countP_congr fun entry _ => ?_)
  rw [decide_eq_true_eq, Bool.not_eq_true', decide_eq_false_iff_not, correlator.cutoff_le_iff given,
    Int.not_le]

/-- Where no start is too old, a sweep has nothing to do. -/
theorem sweep_eq_self (spared : correlator.unexpired = correlator.pending) :
    correlator.sweep = (correlator, 0) := by
  simp [sweep, spared]

/-- A sweep moves no cutoff, so it leaves nothing that the next one drops. -/
theorem unexpired_sweep : correlator.sweep.1.unexpired = correlator.sweep.1.pending :=
  correlator.pending.filter_filter_self fun _ start => correlator.cutoff ≤ start.timestamp

end Correlator

namespace Run

/-- In every state that a run reaches, every start in the table has an age. A sweep there leaves a start
exactly if its age is at most the horizon, and leaves it as it was; it counts the others, tells how many they
were, and changes nothing else. A sweep right after it drops nothing. -/
theorem sweep_drops_exactly_overdue (horizon : Duration) (maxPending : Nat) (calls : List Call) :
    let correlator := (of horizon maxPending calls).correlator
    let swept := correlator.sweep.1
    let dropped := correlator.sweep.2
    (∀ key start, correlator.pending.find? key = some start → 0 ≤ correlator.age start) ∧
      (∀ key start, swept.pending.find? key = some start ↔
        correlator.pending.find? key = some start ∧ correlator.age start ≤ horizon.nanos) ∧
      dropped =
        correlator.pending.entries.countP (fun entry => horizon.nanos < correlator.age entry.2) ∧
      swept.pending.size + dropped = correlator.pending.size ∧
      swept =
        { correlator with
          pending := swept.pending
          counts := { correlator.counts with
            expired := correlator.counts.expired + UInt64.ofNat dropped } } ∧
      swept.sweep = (swept, 0) := by
  intro correlator swept dropped
  have kept := keepsCapacity_of horizon maxPending calls
  refine ⟨?_, correlator.find?_sweep_iff kept.horizon, correlator.dropped_sweep kept.horizon,
    correlator.size_sweep, rfl, swept.sweep_eq_self correlator.unexpired_sweep⟩
  intro key start waiting
  exact (correlator.age_nonneg_iff start).2 (kept.disciplined.seen key start waiting)

/-- The start of a remote read. -/
def requestAt (time : UInt64) : PendingStart :=
  { timestamp := time, direction := .read, bytes := 0, entity := none }

/-- Remote reads at some times, told apart by them. -/
def requestsAt (times : List UInt64) : List Call :=
  times.map fun time => .observe { probe := .remoteIssue, timestamp := time, handle := time }

/-- A horizon beyond all words spares the first time there is at the last one, and one of a microsecond spares
a start of just that age and none before it. -/
theorem sweep_drops_exactly_overdue_boundaries :
    let endless := (of ⟨18446744073709551617⟩ 16 (requestsAt [0, 18446744073709551615])).correlator
    let brief := (of ⟨1000⟩ 16 (requestsAt [0, 499, 500, 1500])).correlator
    0 ≤ endless.age (requestAt 0) ∧
      endless.sweep.1.pending.find? (.remote, .handle 0) = some (requestAt 0) ∧
      brief.sweep.1.pending.find? (.remote, .handle 499) ≠ some (requestAt 499) ∧
      brief.sweep.1.pending.find? (.remote, .handle 500) = some (requestAt 500) ∧
      brief.sweep.2 = 2 ∧ brief.sweep.1.sweep = (brief.sweep.1, 0) := by
  intro endless brief
  obtain ⟨aged, spared, -⟩ :=
    sweep_drops_exactly_overdue ⟨18446744073709551617⟩ 16 (requestsAt [0, 18446744073709551615])
  obtain ⟨-, left, counted, -, -, again⟩ :=
    sweep_drops_exactly_overdue ⟨1000⟩ 16 (requestsAt [0, 499, 500, 1500])
  have waiting : endless.pending.find? (.remote, .handle 0) = some (requestAt 0) := by decide
  refine ⟨aged _ _ waiting, (spared _ _).2 ⟨waiting, by decide⟩, fun kept => ?_, ?_, ?_, again⟩
  · have young := ((left _ _).1 kept).2
    exact absurd young (by decide)
  · exact (left _ _).2 ⟨by decide, by decide⟩
  · exact counted.trans (by decide)

end Run

end StorageTrace
