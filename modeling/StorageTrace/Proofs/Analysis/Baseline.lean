import StorageTrace.Proofs.Analysis.Content
import StorageTrace.Proofs.Analysis.Run

/-! # The baseline of a trend

A trend looks back from the newest snapshot until one lies outside the window. Histories of an analyzer are
in order of time, so this finds the first snapshot inside, counted from the oldest. A wider window never
moves the baseline to a newer snapshot, as long as the newest one is inside the narrower window.
-/

namespace StorageTrace

namespace Trend

/-- The snapshot is not older than the boundary of a window. -/
def inside (boundary : Instant) (snapshot : Snapshot) : Bool :=
  boundary.nanos ≤ snapshot.timestamp.nanos

/-- The place of the first snapshot inside a window, or of the oldest one if there is none. -/
def baselinePlace (history : List Snapshot) (boundary : Instant) : Nat :=
  let place := history.findIdx (inside boundary)
  if place < history.length then place else 0

/-- If a test goes on to hold once it holds, what is found from the end without a gap begins with the first
element that passes. -/
theorem getLast?_takeWhile_reverse {α : Type} {test : α → Bool} {elements : List α}
    (lasting : elements.Pairwise fun earlier later => test earlier = true → test later = true) :
    (elements.reverse.takeWhile test).getLast? = elements.find? test := by
  induction elements with
  | nil => rfl
  | cons first rest ih =>
    obtain ⟨onwards, lasting⟩ := List.pairwise_cons.1 lasting
    rw [List.reverse_cons]
    cases passes : test first with
    | true =>
      have all : ∀ later ∈ rest.reverse, test later = true := fun later member =>
        onwards later (List.mem_reverse.1 member) passes
      rw [List.takeWhile_append_of_pos all, List.takeWhile_cons_of_pos passes, List.takeWhile_nil,
        List.getLast?_concat, List.find?_cons_of_pos passes]
    | false =>
      rw [List.find?_cons_of_neg (by simp [passes]), ← ih lasting, List.takeWhile_append]
      split
      · rename_i whole
        have none : List.takeWhile test [first] = [] := List.takeWhile_cons_of_neg (by simp [passes])
        rw [none, List.append_nil, (List.takeWhile_prefix test).eq_of_length whole]
      · rfl

section Ordered

variable {history : List Snapshot}

/-- In a history in order of time the baseline is the first snapshot inside, or else the oldest. -/
theorem baseline?_eq
    (ordered : history.Pairwise fun earlier later => earlier.timestamp.nanos ≤ later.timestamp.nanos)
    (boundary : Instant) : baseline? history boundary = history[baselinePlace history boundary]? := by
  have lasting : history.Pairwise fun earlier later =>
      inside boundary earlier = true → inside boundary later = true :=
    ordered.imp fun order within => decide_eq_true (Int.le_trans (of_decide_eq_true within) order)
  change ((history.reverse.takeWhile (inside boundary)).getLast?).or history.head? = _
  rw [getLast?_takeWhile_reverse lasting, List.find?_eq_getElem?_findIdx, baselinePlace]
  split
  · rename_i present
    rw [List.getElem?_eq_getElem present, Option.some_or]
  · rename_i absent
    rw [List.getElem?_eq_none (Nat.le_of_not_lt absent), Option.none_or, List.head?_eq_getElem?]

theorem baselinePlace_lt (present : 0 < history.length) (boundary : Instant) :
    baselinePlace history boundary < history.length := by
  rw [baselinePlace]
  split
  · assumption
  · exact present

/-- A boundary that keeps all inside that another keeps inside gives no later baseline, unless the other
keeps nothing inside. -/
theorem baselinePlace_le {boundary wider : Instant}
    (within : ∃ snapshot ∈ history, inside boundary snapshot = true)
    (keeps : ∀ snapshot ∈ history, inside boundary snapshot = true → inside wider snapshot = true) :
    baselinePlace history wider ≤ baselinePlace history boundary := by
  have present := List.findIdx_lt_length_of_exists within
  have earlier : history.findIdx (inside wider) ≤ history.findIdx (inside boundary) :=
    List.findIdx_le_findIdx keeps
  rw [baselinePlace, baselinePlace, if_pos present, if_pos (Nat.lt_of_le_of_lt earlier present)]
  exact earlier

end Ordered

/-- A window begins its length before now, or at the epoch where a clock cannot show that time. -/
theorem nanos_boundary (now : Instant) (window : Duration) :
    (boundary now window).nanos =
      if Instant.minSeconds * nanosPerSecond ≤ now.nanos - window.nanos then now.nanos - window.nanos
      else 0 := by
  rw [boundary, Instant.before?]
  split
  · rfl
  · rfl

/-- What is not before the epoch and inside a window is inside every wider one. -/
theorem inside_wider {now : Instant} {window wider : Duration} {snapshot : Snapshot}
    (longer : window.nanos ≤ wider.nanos) (shown : 0 ≤ snapshot.timestamp.nanos)
    (within : inside (boundary now window) snapshot = true) :
    inside (boundary now wider) snapshot = true := by
  simp only [inside, decide_eq_true_eq, nanos_boundary] at within ⊢
  split
  · rename_i shows
    rw [if_pos (by omega)] at within
    omega
  · exact shown

theorem compare_latencies (oldLatency newLatency : UInt64) (threshold : Float) :
    (compare oldLatency newLatency threshold).oldLatency = oldLatency ∧
      (compare oldLatency newLatency threshold).newLatency = newLatency := by
  unfold compare
  split
  · split <;> exact ⟨rfl, rfl⟩
  · exact ⟨rfl, rfl⟩

/-- Two snapshots make a trend, from the baseline to the newest. -/
theorem ofHistory?_of_long {history : List Snapshot}
    (ordered : history.Pairwise fun earlier later => earlier.timestamp.nanos ≤ later.timestamp.nanos)
    (long : 2 ≤ history.length) (window : Duration) (now : Instant) (threshold : Float) :
    ∃ newest old, history.getLast? = some newest ∧
      history[baselinePlace history (boundary now window)]? = some old ∧
      ofHistory? history window now threshold =
        some (compare old.combinedLatency newest.combinedLatency threshold) := by
  have last := List.getLast?_eq_some_getLast (List.ne_nil_of_length_pos (Nat.lt_of_lt_of_le Nat.two_pos long))
  have place := baselinePlace_lt (Nat.lt_of_lt_of_le Nat.two_pos long) (boundary now window)
  refine ⟨_, _, last, List.getElem?_eq_getElem place, ?_⟩
  rw [ofHistory?, if_neg (Nat.not_lt.2 long), last, baseline?_eq ordered, List.getElem?_eq_getElem place]
  rfl

end Trend

namespace Analyzer

/-! ## Histories in order -/

/-- What a use of an analyzer does to its history. -/
def Call.uses : Call → List History.Call
  | .applyCycle snapshots => snapshots.map fun snapshot => .append snapshot.entity snapshot
  | .retain keep => [.retain keep]

theorem history_answer (analyzer : Analyzer) (call : Call) :
    (analyzer.answer call).history = call.uses.foldl History.answer analyzer.history := by
  cases call with
  | applyCycle snapshots =>
    rw [Call.uses, List.foldl_map]
    exact (List.foldl_hom Analyzer.history fun current snapshot => (history_judge current snapshot).symm).symm
  | retain keep => exact analyzer.history_retain keep

/-- The history of an analyzer is a history after the uses that the calls make of it. -/
theorem history_run (settings : AnalyzerSettings) (calls : List Call) :
    (run settings calls).history = History.run settings.historyCapacity (calls.flatMap Call.uses) := by
  rw [History.run, List.foldl_flatMap]
  exact (List.foldl_hom Analyzer.history fun analyzer call => (analyzer.history_answer call).symm).symm

/-- What an analyzer retains of an entity is in order of time. -/
theorem ordered_run (settings : AnalyzerSettings) (calls : List Call) (entity : String) :
    ((run settings calls).history.all entity).Pairwise fun earlier later =>
      earlier.timestamp.nanos ≤ later.timestamp.nanos := by
  rw [history_run, History.all_run]
  exact (History.pairwise_raised _).sublist (List.drop_sublist ..)

/-! ## Answers -/

section Answers

variable {analyzer : Analyzer} {entity : String} {window : Duration} {now : Instant}

theorem trendAt_of_short (short : (analyzer.history.all entity).length < 2) :
    analyzer.trendAt entity window now =
      .error (.insufficientData entity (analyzer.history.all entity).length) := by
  have none : Trend.ofHistory? (analyzer.history.all entity) window now analyzer.trendChangePercent = none :=
    if_pos short
  simp only [trendAt, none]

theorem trendAt_of_some {trend : Trend}
    (found : Trend.ofHistory? (analyzer.history.all entity) window now analyzer.trendChangePercent =
      some trend) : analyzer.trendAt entity window now = .ok trend := by
  simp only [trendAt, found]

end Answers

/-- After every run of batches and retirements, an entity with fewer than two retained snapshots has no
trend, and is told how many there are. Any other has the trend from the first retained snapshot inside the
window, or the oldest where none is, to the newest. Where nothing retained is older than the epoch and the
newest is inside a window, a wider window has the same baseline or an older one. -/
theorem trend_from_first_inside (settings : AnalyzerSettings) (calls : List Call) (entity : String) :
    let analyzer := run settings calls
    let history := analyzer.history.all entity
    (∀ window now error, analyzer.trendAt entity window now = .error error ↔
      history.length < 2 ∧ error = .insufficientData entity history.length) ∧
    (∀ window now, 2 ≤ history.length → ∃ trend newest old,
      analyzer.trendAt entity window now = .ok trend ∧
      trend = Trend.compare old.combinedLatency newest.combinedLatency analyzer.trendChangePercent ∧
      history.getLast? = some newest ∧ trend.newLatency = newest.combinedLatency ∧
      Trend.baseline? history (Trend.boundary now window) = some old ∧
      history[Trend.baselinePlace history (Trend.boundary now window)]? = some old ∧
      trend.oldLatency = old.combinedLatency) ∧
    ∀ now window wider newest, (∀ snapshot ∈ history, 0 ≤ snapshot.timestamp.nanos) →
      window.nanos ≤ wider.nanos → history.getLast? = some newest →
      Trend.inside (Trend.boundary now window) newest = true →
      Trend.baselinePlace history (Trend.boundary now wider) ≤
        Trend.baselinePlace history (Trend.boundary now window) := by
  intro analyzer history
  have ordered := ordered_run settings calls entity
  refine ⟨?_, ?_, ?_⟩
  · intro window now error
    by_cases short : history.length < 2
    · rw [trendAt_of_short short, Except.error.injEq, eq_comm]
      exact (and_iff_right short).symm
    · obtain ⟨newest, old, -, -, trend⟩ := Trend.ofHistory?_of_long ordered (Nat.le_of_not_lt short) window
        now analyzer.trendChangePercent
      rw [trendAt_of_some trend]
      exact iff_of_false nofun fun few => short few.1
  · intro window now long
    obtain ⟨newest, old, last, first, trend⟩ :=
      Trend.ofHistory?_of_long ordered long window now analyzer.trendChangePercent
    obtain ⟨oldLatency, newLatency⟩ :=
      Trend.compare_latencies old.combinedLatency newest.combinedLatency analyzer.trendChangePercent
    exact ⟨_, newest, old, trendAt_of_some trend, rfl, last, newLatency,
      (Trend.baseline?_eq ordered _).trans first, first, oldLatency⟩
  · intro now window wider newest shown longer last within
    refine Trend.baselinePlace_le ⟨newest, List.mem_of_getLast? last, within⟩ ?_
    intro snapshot member within
    exact Trend.inside_wider longer (shown snapshot member) within

/-- A database in four cycles, the clock set back before the third, and another entity in the last only. -/
def clockSetBack : List Call :=
  [.applyCycle [{ entity := "db", readLatency := 100, timestamp := ⟨4⟩ }],
    .applyCycle [{ entity := "db", readLatency := 200, timestamp := ⟨10⟩ }],
    .applyCycle [{ entity := "db", readLatency := 300, timestamp := ⟨5⟩ }],
    .retain (· ≠ "web"),
    .applyCycle [{ entity := "db", writeLatency := 400, timestamp := ⟨30⟩ }, { entity := "web" }]]

/-- The second time is on the boundary of the window; the wider one reaches back further than a clock can. -/
theorem trend_from_first_inside_set_back :
    let analyzer := run {} clockSetBack
    let history := analyzer.history.all "db"
    (∃ trend, analyzer.trendAt "db" ⟨20⟩ ⟨30⟩ = .ok trend ∧ trend.oldLatency = 200 ∧
      trend.newLatency = 400) ∧
    analyzer.trendAt "web" ⟨20⟩ ⟨30⟩ = .error (.insufficientData "web" 1) ∧
    Trend.baselinePlace history (Trend.boundary ⟨30⟩ (.ofSeconds UInt64.size)) ≤
      Trend.baselinePlace history (Trend.boundary ⟨30⟩ ⟨20⟩) := by
  intro analyzer history
  obtain ⟨-, answers, widens⟩ := trend_from_first_inside {} clockSetBack "db"
  obtain ⟨fails, -⟩ := trend_from_first_inside {} clockSetBack "web"
  obtain ⟨trend, newest, old, answered, -, last, newLatency, -, first, oldLatency⟩ :=
    answers ⟨20⟩ ⟨30⟩ (by decide)
  have oldValue : (history[Trend.baselinePlace history (Trend.boundary ⟨30⟩ ⟨20⟩)]?).map
      Snapshot.combinedLatency = some 200 := by decide
  have newValue : history.getLast?.map Snapshot.combinedLatency = some 400 := by decide
  rw [first, Option.map_some, Option.some.injEq] at oldValue
  rw [last, Option.map_some, Option.some.injEq] at newValue
  refine ⟨⟨trend, answered, oldLatency.trans oldValue, newLatency.trans newValue⟩, ?_, ?_⟩
  · exact (fails ⟨20⟩ ⟨30⟩ _).2 ⟨by decide, rfl⟩
  · have within : history.getLast?.map (Trend.inside (Trend.boundary ⟨30⟩ ⟨20⟩)) = some true := by decide
    rw [last, Option.map_some, Option.some.injEq] at within
    exact widens ⟨30⟩ ⟨20⟩ (.ofSeconds UInt64.size) newest (by decide) (by decide) last within

end Analyzer

end StorageTrace
