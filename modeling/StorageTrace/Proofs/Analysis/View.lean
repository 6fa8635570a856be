import Mathlib.Algebra.GroupWithZero.Nat
import StorageTrace.Proofs.Analysis.Run

/-! # The view shows the history

After every run the view holds just the entities that have a history. For each of them it shows the end
of that history with the verdicts on it, and the summary counts them. Retiring nobody leaves the view as
it is, which is right since it holds nobody else.
-/

namespace StorageTrace

namespace History

/-! ## Tables of verdicts -/

section Tabulates

variable {α : Type}

/-- A table has an entry for each entity with a history: a verdict on the retained snapshots and the latest
of them. -/
def Tabulates (history : History) (verdict : List Snapshot → Snapshot → α) (table : Table String α) :
    Prop :=
  ∀ entity, table.find? entity =
    (history.all entity).getLast?.map (verdict (history.all entity))

variable {history : History} {verdict : List Snapshot → Snapshot → α} {table : Table String α}

theorem Tabulates.mem_keys_iff (tabulates : history.Tabulates verdict table) (entity : String) :
    entity ∈ table.keys ↔ history.all entity ≠ [] := by
  rw [Table.mem_keys_iff, tabulates entity, Option.isSome_map, List.getLast?_isSome]

/-- A snapshot that is appended is the latest of its entity. -/
theorem Tabulates.append (tabulates : history.Tabulates verdict table) (positive : 1 ≤ history.capacity)
    (snapshot : Snapshot) :
    let before := history.all snapshot.entity
    (history.append snapshot.entity snapshot).Tabulates verdict
      (table.insert snapshot.entity
        (verdict (extend history.capacity before snapshot) (clamp before.getLast? snapshot))) := by
  intro before entity
  rw [Table.find?_insert, all_append]
  by_cases own : entity = snapshot.entity
  · have last := getLast?_extend positive before snapshot
    rw [extend] at last
    rw [if_pos own, if_pos own, last]
    rfl
  · rw [if_neg own, if_neg own]
    exact tabulates entity

/-- Where entities are retired, their entries go with their lists. -/
theorem Tabulates.filter (tabulates : history.Tabulates verdict table) (keep : String → Bool) :
    (history.retain keep).1.Tabulates verdict (table.filter fun entity _ => keep entity) := by
  intro entity
  rw [Table.find?_filter_key, all_retain, tabulates entity]
  split
  · rfl
  · rfl

/-- Where nobody is retired, every list stays as it is. -/
theorem all_of_none_retired (keep : String → Bool) (nobody : (history.retain keep).2 = 0)
    (entity : String) : (history.retain keep).1.all entity = history.all entity := by
  rw [all_retain]
  cases kept : keep entity with
  | true => rw [if_pos rfl]
  | false =>
    rw [if_neg Bool.false_ne_true, all]
    cases stored : history.entries.find? entity with
    | none => rfl
    | some retained =>
      have passed := history.entries.pass_of_size_filter (fun entity _ => keep entity) nobody stored
      rw [kept] at passed
      cases passed

theorem Tabulates.of_none_retired (tabulates : history.Tabulates verdict table) (keep : String → Bool)
    (nobody : (history.retain keep).2 = 0) : (history.retain keep).1.Tabulates verdict table := by
  intro entity
  rw [all_of_none_retired keep nobody]
  exact tabulates entity

end Tabulates

end History

/-- How many entities of a view have a verdict. -/
def View.tally (view : View) (kind : Bottleneck) : Nat :=
  view.latest.keys.countP fun entity => view.bottleneck entity = kind

namespace Analyzer

/-- The tables of the view tell of the history. -/
structure Reflects (analyzer : Analyzer) : Prop where
  positive : 1 ≤ analyzer.history.capacity
  named : ∀ entity, ∀ snapshot ∈ analyzer.history.all entity, snapshot.entity = entity
  filled : analyzer.history.Tabulates (fun retained _ => retained) analyzer.history.entries
  latest : analyzer.history.Tabulates (fun _ latest => latest) analyzer.view.latest
  bottlenecks : analyzer.history.Tabulates
    (fun _ latest => Bottleneck.classify latest analyzer.thresholds) analyzer.view.bottlenecks
  anomalies : analyzer.history.Tabulates
    (fun retained _ => Anomaly.detect retained analyzer.anomaly) analyzer.view.anomalies

/-! ## What a call does to the view -/

/-- A snapshot that is judged is the latest of its entity, with the verdicts on the list that it ends. -/
theorem judge_eq (analyzer : Analyzer) (snapshot : Snapshot) (positive : 1 ≤ analyzer.history.capacity) :
    analyzer.judge snapshot =
      let before := analyzer.history.all snapshot.entity
      let latest := History.clamp before.getLast? snapshot
      let retained := History.extend analyzer.history.capacity before snapshot
      { analyzer with
        history := analyzer.history.append snapshot.entity snapshot
        view := { analyzer.view with
          latest := analyzer.view.latest.insert snapshot.entity latest
          bottlenecks := analyzer.view.bottlenecks.insert snapshot.entity
            (Bottleneck.classify latest analyzer.thresholds)
          anomalies := analyzer.view.anomalies.insert snapshot.entity
            (Anomaly.detect retained analyzer.anomaly) } } := by
  have retained : (analyzer.history.append snapshot.entity snapshot).all snapshot.entity =
      History.extend analyzer.history.capacity (analyzer.history.all snapshot.entity) snapshot := by
    rw [History.all_append, if_pos rfl]
    rfl
  have last := History.getLast?_extend positive (analyzer.history.all snapshot.entity) snapshot
  unfold judge
  dsimp only
  rw [retained, last]

namespace Reflects

variable {analyzer : Analyzer}

theorem new (settings : AnalyzerSettings) : (Analyzer.new settings).Reflects where
  positive := Nat.le_max_right _ _
  named := fun _ _ member => absurd member List.not_mem_nil
  filled := fun _ => rfl
  latest := fun _ => rfl
  bottlenecks := fun _ => rfl
  anomalies := fun _ => rfl

theorem judge (reflects : analyzer.Reflects) (snapshot : Snapshot) :
    (analyzer.judge snapshot).Reflects := by
  have positive := reflects.positive
  have named : ∀ entity, ∀ member ∈ (analyzer.history.append snapshot.entity snapshot).all entity,
      member.entity = entity := by
    intro entity member present
    rw [History.all_append] at present
    by_cases own : entity = snapshot.entity
    · rw [if_pos own] at present
      rcases History.mem_extend present with before | rfl
      · rw [own]
        exact reflects.named _ _ before
      · rw [History.clamp_entity, own]
    · rw [if_neg own] at present
      exact reflects.named _ _ present
  rw [analyzer.judge_eq snapshot positive]
  exact
    { positive := positive
      named := named
      filled := reflects.filled.append positive snapshot
      latest := reflects.latest.append positive snapshot
      bottlenecks := reflects.bottlenecks.append positive snapshot
      anomalies := reflects.anomalies.append positive snapshot }

theorem applyCycle (reflects : analyzer.Reflects) (snapshots : List Snapshot) :
    (analyzer.applyCycle snapshots).Reflects :=
  analyzer.applyCycle_induction Reflects snapshots
    (fun _ => ⟨reflects.positive, reflects.named, reflects.filled, reflects.latest,
      reflects.bottlenecks, reflects.anomalies⟩)
    fun _ snapshot before => before.judge snapshot

theorem retain (reflects : analyzer.Reflects) (keep : String → Bool) :
    (analyzer.retain keep).1.Reflects := by
  have named : ∀ entity, ∀ snapshot ∈ (analyzer.history.retain keep).1.all entity,
      snapshot.entity = entity := by
    intro entity snapshot present
    rw [History.all_retain] at present
    split at present
    · exact reflects.named entity snapshot present
    · cases present
  have filled := reflects.filled.filter keep
  simp only [Analyzer.retain]
  split
  · -- the view is left alone, which is right since the histories have not changed
    rename_i nobody
    exact
      { positive := reflects.positive
        named := named
        filled := filled
        latest := reflects.latest.of_none_retired keep nobody
        bottlenecks := reflects.bottlenecks.of_none_retired keep nobody
        anomalies := reflects.anomalies.of_none_retired keep nobody }
  · exact
      { positive := reflects.positive
        named := named
        filled := filled
        latest := reflects.latest.filter keep
        bottlenecks := reflects.bottlenecks.filter keep
        anomalies := reflects.anomalies.filter keep }

theorem run (settings : AnalyzerSettings) (calls : List Call) : (Analyzer.run settings calls).Reflects := by
  refine run_induction Reflects (new settings) ?_ calls
  intro analyzer call reflects
  cases call with
  | applyCycle snapshots => exact reflects.applyCycle snapshots
  | retain keep => exact reflects.retain keep

/-! ## Who is in the view -/

theorem mem_entities_iff (reflects : analyzer.Reflects) (entity : String) :
    entity ∈ analyzer.history.entities ↔ analyzer.history.all entity ≠ [] :=
  reflects.filled.mem_keys_iff entity

theorem mem_latest_iff (reflects : analyzer.Reflects) (entity : String) :
    entity ∈ analyzer.view.latest.keys ↔ entity ∈ analyzer.history.entities :=
  (reflects.latest.mem_keys_iff entity).trans (reflects.mem_entities_iff entity).symm

/-- The view holds each latest snapshot under its own name. -/
theorem names_latest (reflects : analyzer.Reflects) :
    analyzer.view.latest.values.map Snapshot.entity = analyzer.view.latest.keys := by
  rw [Table.values, Table.keys, List.map_map]
  apply List.map_congr_left
  rintro ⟨entity, latest⟩ listed
  have stored := (analyzer.view.latest.find?_eq_some_iff entity latest).2 listed
  rw [reflects.latest entity] at stored
  obtain ⟨last, isLast, rfl⟩ := Option.map_eq_some_iff.1 stored
  exact reflects.named entity last (List.mem_of_getLast? isLast)

theorem mem_bottlenecks_iff (reflects : analyzer.Reflects) (entity : String) :
    entity ∈ analyzer.view.bottlenecks.keys ↔ entity ∈ analyzer.history.entities :=
  (reflects.bottlenecks.mem_keys_iff entity).trans (reflects.mem_entities_iff entity).symm

theorem mem_anomalies_iff (reflects : analyzer.Reflects) (entity : String) :
    entity ∈ analyzer.view.anomalies.keys ↔ entity ∈ analyzer.history.entities :=
  (reflects.anomalies.mem_keys_iff entity).trans (reflects.mem_entities_iff entity).symm

/-- What the view says about an entity with a history. -/
theorem of_mem (reflects : analyzer.Reflects) {entity : String}
    (member : entity ∈ analyzer.history.entities) :
    ∃ latest, (analyzer.history.all entity).getLast? = some latest ∧ latest.entity = entity ∧
      analyzer.view.latest? entity = some latest ∧
      analyzer.view.bottleneck entity = Bottleneck.classify latest analyzer.thresholds ∧
      analyzer.view.anomaly entity =
        Anomaly.detect (analyzer.history.all entity) analyzer.anomaly := by
  have recorded := (reflects.mem_entities_iff entity).1 member
  have last := List.getLast?_eq_some_getLast recorded
  refine ⟨(analyzer.history.all entity).getLast recorded, last, ?_, ?_, ?_, ?_⟩
  · exact reflects.named entity _ (List.getLast_mem recorded)
  · rw [View.latest?, reflects.latest entity, last]
    rfl
  · rw [View.bottleneck, reflects.bottlenecks entity, last]
    rfl
  · rw [View.anomaly, reflects.anomalies entity, last]
    rfl

/-- What the view says about any other entity. -/
theorem of_not_mem (reflects : analyzer.Reflects) {entity : String}
    (absent : entity ∉ analyzer.history.entities) :
    analyzer.view.latest? entity = none ∧ analyzer.view.bottleneck entity = .unknown ∧
      analyzer.view.anomaly entity = false ∧ analyzer.history.all entity = [] := by
  have unrecorded : analyzer.history.all entity = [] := by
    rw [reflects.mem_entities_iff] at absent
    exact Decidable.not_not.1 absent
  refine ⟨?_, ?_, ?_, unrecorded⟩
  · rw [View.latest?, reflects.latest entity, unrecorded]
    rfl
  · rw [View.bottleneck, reflects.bottlenecks entity, unrecorded]
    rfl
  · rw [View.anomaly, reflects.anomalies entity, unrecorded]
    rfl

/-! ## What the summary counts -/

/-- Every verdict is one of the five. -/
theorem sum_verdicts (verdicts : List Bottleneck) :
    (Bottleneck.all.map fun kind => verdicts.countP fun found => found = kind).sum = verdicts.length := by
  induction verdicts with
  | nil => rfl
  | cons verdict rest ih =>
    simp only [Bottleneck.all, List.map_cons, List.map_nil, List.sum_cons, List.sum_nil,
      List.countP_cons] at ih ⊢
    cases verdict with
    | none => simp; omega
    | queue => simp; omega
    | disk => simp; omega
    | network => simp; omega
    | unknown => simp; omega

theorem perm_keys_latest (reflects : analyzer.Reflects) :
    analyzer.view.latest.keys.Perm analyzer.history.entities :=
  Table.perm_keys reflects.mem_latest_iff

theorem size_latest (reflects : analyzer.Reflects) :
    analyzer.view.latest.size = analyzer.history.entities.length := by
  rw [← reflects.perm_keys_latest.length_eq, Table.keys, List.length_map]
  rfl

/-- A verdict is counted once for each entity that has it. -/
theorem countP_verdicts (reflects : analyzer.Reflects) (kind : Bottleneck) :
    analyzer.view.bottlenecks.values.countP (fun found => found = kind) =
      analyzer.history.entities.countP fun entity => analyzer.view.bottleneck entity = kind := by
  have same : analyzer.view.bottlenecks.keys.Perm analyzer.history.entities :=
    Table.perm_keys reflects.mem_bottlenecks_iff
  rw [Table.countP_values _ .unknown, same.countP_eq]
  rfl

theorem countP_bottlenecks (reflects : analyzer.Reflects) (kind : Bottleneck) :
    analyzer.view.bottlenecks.values.countP (fun found => found = kind) = analyzer.view.tally kind := by
  rw [reflects.countP_verdicts, View.tally, reflects.perm_keys_latest.countP_eq]

theorem countP_anomalies (reflects : analyzer.Reflects) :
    analyzer.view.anomalies.values.countP id = analyzer.history.entities.countP analyzer.view.anomaly := by
  have same : analyzer.view.anomalies.keys.Perm analyzer.history.entities :=
    Table.perm_keys reflects.mem_anomalies_iff
  rw [Table.countP_values _ false, same.countP_eq]
  rfl

/-- The summary counts the entities with a history, and each verdict among them. -/
theorem summary_eq (reflects : analyzer.Reflects) :
    analyzer.view.summary =
      { cycle := analyzer.view.cycle
        entities := analyzer.history.entities.length
        anomalies := analyzer.history.entities.countP analyzer.view.anomaly
        bottlenecks := Bottleneck.all.map fun kind =>
          (kind, analyzer.history.entities.countP fun entity => analyzer.view.bottleneck entity = kind) } := by
  rw [View.summary, reflects.size_latest, reflects.countP_anomalies]
  simp only [reflects.countP_verdicts]

theorem summary_entities (reflects : analyzer.Reflects) :
    analyzer.view.summary.entities = (analyzer.view.summary.bottlenecks.map Prod.snd).sum := by
  have verdicts := sum_verdicts (analyzer.history.entities.map analyzer.view.bottleneck)
  rw [List.length_map] at verdicts
  rw [reflects.summary_eq, ← verdicts, List.map_map]
  simp only [List.countP_map]
  rfl

end Reflects

/-! ## Cycles -/

theorem cycle_judge (analyzer : Analyzer) (snapshot : Snapshot) :
    (analyzer.judge snapshot).view.cycle = analyzer.view.cycle := by
  unfold judge
  dsimp only
  split
  · rfl
  · rfl

theorem cycle_applyCycle (analyzer : Analyzer) (snapshots : List Snapshot) :
    (analyzer.applyCycle snapshots).view.cycle = analyzer.view.cycle + 1 := by
  unfold applyCycle
  generalize next : ({ analyzer with view := { analyzer.view with cycle := _ } } : Analyzer) = current
  have start : current.view.cycle = analyzer.view.cycle + 1 := by rw [← next]
  clear next
  induction snapshots generalizing current with
  | nil => exact start
  | cons snapshot rest ih => exact ih _ ((current.cycle_judge snapshot).trans start)

theorem cycle_retain (analyzer : Analyzer) (keep : String → Bool) :
    (analyzer.retain keep).1.view.cycle = analyzer.view.cycle := by
  simp only [retain]
  split
  · rfl
  · rfl

/-- The view tells how many cycles have been taken in. -/
theorem cycle_run (settings : AnalyzerSettings) (calls : List Call) :
    (run settings calls).view.cycle = calls.countP (·.isCycle) := by
  have general : ∀ analyzer : Analyzer,
      (calls.foldl answer analyzer).view.cycle = analyzer.view.cycle + calls.countP (·.isCycle) := by
    induction calls with
    | nil => intro analyzer; rfl
    | cons call rest ih =>
      intro analyzer
      rw [List.foldl_cons, ih, List.countP_cons]
      cases call with
      | applyCycle snapshots =>
        rw [answer, cycle_applyCycle, Call.isCycle, if_pos rfl]
        omega
      | retain keep =>
        rw [answer, cycle_retain, Call.isCycle, if_neg Bool.false_ne_true]
        rfl
  rw [run, general]
  exact Nat.zero_add _

/-- After every run of batches and retirements, the three tables of the view and the histories have the
same entities. Each entity is shown with the end of its history, the verdict on that snapshot and whether
it stands out from the whole history; all others are answered with nothing. The view counts the cycles. Its
summary counts the entities, those among them that stand out, and for each verdict those that have it, which
together are all. -/
theorem view_shows_history (settings : AnalyzerSettings) (calls : List Call) :
    let analyzer := run settings calls
    let view := analyzer.view
    (∀ entity,
      (entity ∈ analyzer.history.entities ↔ analyzer.history.all entity ≠ []) ∧
      (entity ∈ view.latest.keys ↔ entity ∈ analyzer.history.entities) ∧
      (entity ∈ view.bottlenecks.keys ↔ entity ∈ analyzer.history.entities) ∧
      (entity ∈ view.anomalies.keys ↔ entity ∈ analyzer.history.entities)) ∧
    (∀ entity, entity ∈ analyzer.history.entities →
      ∃ latest, (analyzer.history.all entity).getLast? = some latest ∧ latest.entity = entity ∧
        view.latest? entity = some latest ∧
        view.bottleneck entity =
          Bottleneck.classify latest (Thresholds.ofSettings settings.thresholds) ∧
        view.anomaly entity = Anomaly.detect (analyzer.history.all entity) settings.anomaly) ∧
    (∀ entity, entity ∉ analyzer.history.entities →
      view.latest? entity = none ∧ view.bottleneck entity = .unknown ∧ view.anomaly entity = false ∧
        analyzer.history.all entity = []) ∧
    view.cycle = calls.countP (·.isCycle) ∧
    analyzer.history.entities.Nodup ∧
    view.summary =
      { cycle := calls.countP (·.isCycle)
        entities := analyzer.history.entities.length
        anomalies := analyzer.history.entities.countP view.anomaly
        bottlenecks := Bottleneck.all.map fun kind =>
          (kind, analyzer.history.entities.countP fun entity => view.bottleneck entity = kind) } ∧
    view.summary.entities = (view.summary.bottlenecks.map Prod.snd).sum := by
  intro analyzer view
  have reflects : analyzer.Reflects := Reflects.run settings calls
  have settled : analyzer.settled = _ := settled_run settings calls
  have thresholds : analyzer.thresholds = Thresholds.ofSettings settings.thresholds :=
    congrArg Prod.fst settled
  have anomaly : analyzer.anomaly = settings.anomaly := congrArg (fun kept => kept.2.1) settled
  have cycle : view.cycle = calls.countP (·.isCycle) := cycle_run settings calls
  refine ⟨?_, ?_, ?_, cycle, analyzer.history.entries.distinct, ?_, reflects.summary_entities⟩
  · intro entity
    exact ⟨reflects.mem_entities_iff entity, reflects.mem_latest_iff entity,
      reflects.mem_bottlenecks_iff entity, reflects.mem_anomalies_iff entity⟩
  · intro entity member
    obtain ⟨latest, last, named, shown, verdict, standsOut⟩ := reflects.of_mem member
    rw [thresholds] at verdict
    rw [anomaly] at standsOut
    exact ⟨latest, last, named, shown, verdict, standsOut⟩
  · intro entity absent
    exact reflects.of_not_mem absent
  · rw [← cycle]
    exact reflects.summary_eq

/-- A batch with an entity twice, the second time from earlier; then one entity is retired, then nobody,
and a batch comes without snapshots. -/
def twiceThenRetired : List Call :=
  [.applyCycle [{ entity := "db", timestamp := ⟨10⟩ }, { entity := "web", timestamp := ⟨7⟩ },
      { entity := "db", timestamp := ⟨5⟩ }],
    .retain (· ≠ "web"), .retain fun _ => true, .applyCycle []]

theorem view_shows_history_retired :
    let analyzer := run {} twiceThenRetired
    (∃ latest, (analyzer.history.all "db").getLast? = some latest ∧
      analyzer.view.latest? "db" = some latest ∧ latest.entity = "db") ∧
      analyzer.view.latest? "web" = none ∧ analyzer.view.cycle = 2 ∧
      analyzer.view.summary.bottlenecks =
        [(.none, 1), (.queue, 0), (.disk, 0), (.network, 0), (.unknown, 0)] := by
  obtain ⟨_, shown, others, cycle, _, summary, _⟩ := view_shows_history {} twiceThenRetired
  obtain ⟨latest, last, named, answered, _⟩ := shown "db" (by decide)
  obtain ⟨unanswered, _⟩ := others "web" (by decide)
  have verdicts := congrArg Summary.bottlenecks summary
  exact ⟨⟨latest, last, answered, named⟩, unanswered, cycle, verdicts.trans rfl⟩

end Analyzer

end StorageTrace
