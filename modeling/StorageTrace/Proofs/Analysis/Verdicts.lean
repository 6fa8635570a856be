import StorageTrace.Bottleneck

/-! # What verdicts depend on

A component is blamed if its latency exceeds that of both others and, for queueing, the threshold. Never more
than one is, so the order in which a snapshot is looked through decides nothing: a verdict that blames a
component stands as long as that component gets no faster and the others no slower, and the two components
without a threshold can change places. A threshold that does not fit into a word is exceeded by no latency,
and neither is the word that stands for it.
-/

namespace StorageTrace

/-- A word exceeds a duration exactly if it exceeds the word that stands for the duration. -/
theorem Duration.saturated_lt_iff (duration : Duration) (word : UInt64) :
    duration.saturated < word ↔ duration.nanos < word.toNat := by
  have bound := word.toNat_lt
  have size : UInt64.size = 2 ^ 64 := rfl
  rw [UInt64.lt_iff_toNat_lt, toNat_saturated]
  omega

/-- The parts of an operation's way that can be blamed for its latency. -/
inductive Component where
  | queue
  | disk
  | network
  deriving DecidableEq, Repr

namespace Component

def latency (component : Component) (snapshot : Snapshot) : UInt64 :=
  match component with
  | .queue => snapshot.queueLatency
  | .disk => snapshot.diskLatency
  | .network => snapshot.networkLatency

/-- The verdict that blames a component. -/
def verdict : Component → Bottleneck
  | .queue => .queue
  | .disk => .disk
  | .network => .network

/-- The other components. -/
def rivals : Component → List Component
  | .queue => [.disk, .network]
  | .disk => [.queue, .network]
  | .network => [.queue, .disk]

theorem mem_rivals_iff {component other : Component} : other ∈ component.rivals ↔ other ≠ component := by
  cases component <;> cases other <;> decide

theorem verdict_inj {component other : Component} (same : component.verdict = other.verdict) :
    component = other := by
  cases component <;> cases other <;> first | rfl | cases same

/-- The latency of a component exceeds that of both others. -/
def Leads (component : Component) (snapshot : Snapshot) : Prop :=
  ∀ other ∈ component.rivals, other.latency snapshot < component.latency snapshot

instance (component : Component) (snapshot : Snapshot) : Decidable (component.Leads snapshot) :=
  inferInstanceAs (Decidable (∀ other ∈ component.rivals, _))

/-- The component leads, and if it is queueing, it is slow enough to count. -/
structure Blamed (component : Component) (snapshot : Snapshot) (thresholds : Thresholds) : Prop where
  slow : component = .queue → thresholds.queue < component.latency snapshot
  leads : component.Leads snapshot

theorem blamed_iff (component : Component) (snapshot : Snapshot) (thresholds : Thresholds) :
    component.Blamed snapshot thresholds ↔
      (component = .queue → thresholds.queue < component.latency snapshot) ∧ component.Leads snapshot :=
  ⟨fun blamed => ⟨blamed.slow, blamed.leads⟩, fun both => ⟨both.1, both.2⟩⟩

instance (component : Component) (snapshot : Snapshot) (thresholds : Thresholds) :
    Decidable (component.Blamed snapshot thresholds) :=
  decidable_of_iff (_ ∧ _) (blamed_iff component snapshot thresholds).symm

variable {component : Component} {snapshot changed : Snapshot} {thresholds : Thresholds}

/-- No two components are blamed at once. -/
theorem Blamed.unique {other : Component} (blamed : component.Blamed snapshot thresholds)
    (blamed' : other.Blamed snapshot thresholds) : component = other := by
  refine Decidable.byContradiction fun differ => ?_
  have below := blamed'.leads component (mem_rivals_iff.2 differ)
  have above := blamed.leads other (mem_rivals_iff.2 (Ne.symm differ))
  exact UInt64.lt_irrefl _ (UInt64.lt_trans below above)

/-- The component to blame stays to blame while it gets no faster and the others get no slower. -/
theorem Blamed.stays (blamed : component.Blamed snapshot thresholds)
    (slower : component.latency snapshot ≤ component.latency changed)
    (faster : ∀ other, other ≠ component → other.latency changed ≤ other.latency snapshot) :
    component.Blamed changed thresholds := by
  refine ⟨fun queueing => ?_, fun other rival => ?_⟩
  · exact UInt64.lt_of_lt_of_le (blamed.slow queueing) slower
  · have behind := UInt64.lt_of_le_of_lt (faster other (mem_rivals_iff.1 rival)) (blamed.leads other rival)
    exact UInt64.lt_of_lt_of_le behind slower

/-- Disk and network change places. -/
def exchanged : Component → Component
  | .queue => .queue
  | .disk => .network
  | .network => .disk

end Component

namespace Snapshot

/-- The snapshot with the latencies of disk and network in each other's place. -/
def exchanged (snapshot : Snapshot) : Snapshot :=
  { snapshot with
    diskLatency := snapshot.networkLatency
    networkLatency := snapshot.diskLatency }

end Snapshot

namespace Component

variable {component : Component} {snapshot : Snapshot} {thresholds : Thresholds}

theorem latency_exchanged : component.exchanged.latency snapshot.exchanged = component.latency snapshot := by
  cases component <;> rfl

theorem mem_rivals_exchanged {other : Component} :
    other.exchanged ∈ component.exchanged.rivals ↔ other ∈ component.rivals := by
  cases component <;> cases other <;> decide

theorem exchanged_exchanged (component : Component) : component.exchanged.exchanged = component := by
  cases component <;> rfl

theorem exchanged_eq_queue_iff : component.exchanged = .queue ↔ component = .queue := by
  cases component <;> decide

theorem Blamed.exchanged (blamed : component.Blamed snapshot thresholds) :
    component.exchanged.Blamed snapshot.exchanged thresholds := by
  refine ⟨fun queueing => ?_, fun other rival => ?_⟩
  · rw [latency_exchanged]
    exact blamed.slow (exchanged_eq_queue_iff.1 queueing)
  · rw [← exchanged_exchanged other, mem_rivals_exchanged] at rival
    rw [← exchanged_exchanged other, latency_exchanged, latency_exchanged]
    exact blamed.leads _ rival

end Component

namespace Bottleneck

/-- Disk and network change places. -/
def exchanged : Bottleneck → Bottleneck
  | .none => .none
  | .queue => .queue
  | .disk => .network
  | .network => .disk
  | .unknown => .unknown

/-- The verdict by the durations themselves, whether or not they fit into words. -/
def classifyExactly (snapshot : Snapshot) (settings : ThresholdSettings) : Bottleneck :=
  if settings.queue.nanos < snapshot.queueLatency.toNat ∧ Component.queue.Leads snapshot then .queue
  else if Component.disk.Leads snapshot then .disk
  else if Component.network.Leads snapshot then .network
  else if settings.read.nanos < snapshot.readLatency.toNat ∨
      settings.write.nanos < snapshot.writeLatency.toNat then .unknown
  else .none

theorem classify_ofSettings (snapshot : Snapshot) (settings : ThresholdSettings) :
    classify snapshot (.ofSettings settings) = classifyExactly snapshot settings := by
  simp [classify, classifyExactly, Thresholds.ofSettings, Duration.saturated_lt_iff, Component.Leads,
    Component.rivals, Component.latency]

variable {snapshot changed : Snapshot} {thresholds : Thresholds}

theorem classify_eq (snapshot : Snapshot) (thresholds : Thresholds) :
    classify snapshot thresholds =
      if Component.queue.Blamed snapshot thresholds then .queue
      else if Component.disk.Blamed snapshot thresholds then .disk
      else if Component.network.Blamed snapshot thresholds then .network
      else if thresholds.read < snapshot.readLatency ∨ thresholds.write < snapshot.writeLatency then
        .unknown
      else .none := by
  simp [classify, Component.blamed_iff, Component.Leads, Component.rivals, Component.latency]

/-- A component that is to blame is blamed, wherever it comes in the order of judging. -/
theorem classify_of_blamed {component : Component} (blamed : component.Blamed snapshot thresholds) :
    classify snapshot thresholds = component.verdict := by
  have others (other : Component) (differ : other ≠ component) : ¬ other.Blamed snapshot thresholds :=
    fun blamed' => differ (blamed'.unique blamed)
  rw [classify_eq]
  cases component with
  | queue => exact if_pos blamed
  | disk =>
    rw [if_neg (others .queue (by decide)), if_pos blamed]
    rfl
  | network =>
    rw [if_neg (others .queue (by decide)), if_neg (others .disk (by decide)), if_pos blamed]
    rfl

/-- Where no component is to blame, the verdict is on reads and writes. -/
theorem classify_of_blameless (blameless : ∀ component : Component, ¬ component.Blamed snapshot thresholds) :
    classify snapshot thresholds =
      if thresholds.read < snapshot.readLatency ∨ thresholds.write < snapshot.writeLatency then .unknown
      else .none := by
  rw [classify_eq, if_neg (blameless _), if_neg (blameless _), if_neg (blameless _)]

theorem classify_eq_verdict_iff {component : Component} :
    classify snapshot thresholds = component.verdict ↔ component.Blamed snapshot thresholds := by
  refine ⟨fun judged => ?_, classify_of_blamed⟩
  by_cases guilty : ∃ other : Component, other.Blamed snapshot thresholds
  · obtain ⟨other, blamed⟩ := guilty
    rw [classify_of_blamed blamed] at judged
    rwa [← Component.verdict_inj judged]
  · rw [not_exists] at guilty
    rw [classify_of_blameless guilty] at judged
    split at judged <;> cases component <;> cases judged

theorem classify_exchanged (snapshot : Snapshot) (thresholds : Thresholds) :
    classify snapshot.exchanged thresholds = (classify snapshot thresholds).exchanged := by
  by_cases guilty : ∃ component : Component, component.Blamed snapshot thresholds
  · obtain ⟨component, blamed⟩ := guilty
    rw [classify_of_blamed blamed, classify_of_blamed blamed.exchanged]
    cases component <;> rfl
  · rw [not_exists] at guilty
    -- exchanging twice changes nothing, so nothing can become the one to blame
    have blameless (component : Component) : ¬ component.Blamed snapshot.exchanged thresholds :=
      fun blamed => guilty component.exchanged blamed.exchanged
    rw [classify_of_blameless guilty, classify_of_blameless blameless]
    change (if thresholds.read < snapshot.readLatency ∨ thresholds.write < snapshot.writeLatency then _
      else _) = _
    split <;> rfl

/-- The verdict is that by the durations of the settings, however long they are. A verdict that blames a
component stands in every snapshot in which that component is no faster and the others are no slower, whatever
reads and writes take. Where the latencies of disk and network change places, so do the verdicts that blame
them, and no other verdict changes. -/
theorem verdicts_stable (snapshot : Snapshot) :
    (∀ settings, classify snapshot (.ofSettings settings) = classifyExactly snapshot settings) ∧
    (∀ thresholds changed, ∀ component : Component,
      classify snapshot thresholds = component.verdict →
      component.latency snapshot ≤ component.latency changed →
      (∀ other, other ≠ component → other.latency changed ≤ other.latency snapshot) →
      classify changed thresholds = component.verdict) ∧
    ∀ thresholds, classify snapshot.exchanged thresholds = (classify snapshot thresholds).exchanged := by
  refine ⟨classify_ofSettings snapshot, ?_, classify_exchanged snapshot⟩
  intro thresholds changed component judged slower faster
  have blamed := classify_eq_verdict_iff.1 judged
  exact classify_of_blamed (blamed.stays slower faster)

/-- A threshold for queueing that no word exceeds. -/
def longQueues : ThresholdSettings := { read := ⟨10⟩, queue := ⟨18446744073709551616⟩ }

/-- Queueing takes as long as a word can tell. -/
def strained : Snapshot :=
  { entity := "db", readLatency := 11, queueLatency := 18446744073709551615, diskLatency := 7 }

/-- The disk takes longest. -/
def busy : Snapshot := { strained with queueLatency := 6 }

theorem verdicts_stable_saturated :
    classify strained (.ofSettings longQueues) = .unknown ∧
      classify busy (.ofSettings longQueues) = .disk ∧
      classify { busy with readLatency := 0, queueLatency := 5, diskLatency := 9 } (.ofSettings longQueues) =
        .disk ∧
      classify busy.exchanged (.ofSettings longQueues) = .network := by
  obtain ⟨exact, stable, swapped⟩ := verdicts_stable busy
  have disk : classify busy (.ofSettings longQueues) = .disk := (exact longQueues).trans (by decide)
  refine ⟨((verdicts_stable strained).1 longQueues).trans (by decide), disk, ?_, ?_⟩
  · refine stable _ _ .disk disk (by decide) ?_
    intro other differs
    cases other with
    | queue => decide
    | disk => exact absurd rfl differs
    | network => decide
  · rw [swapped, disk]
    rfl

end Bottleneck

end StorageTrace
