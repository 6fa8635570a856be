import Mathlib.Data.List.Sort
import StorageTrace.Ranking
import StorageTrace.Proofs.Analysis.View
import StorageTrace.Proofs.Names.ByteOrder
import StorageTrace.Proofs.Ranking.TotalOrder

/-! # The top of a ranking

Two sorts that keep the order of ties make one ranking: greater keys first, then smaller names, then
earlier positions. The top is the beginning of it, and where names are distinct it does not depend on the
order in which the snapshots were given.
-/

namespace StorageTrace

/-! ## Sorts that keep the order of ties -/

section StableSorts

variable {α : Type} {le : α → α → Prop} [DecidableRel le] {R : α → α → Prop}

/-- Items that tie with each other come out of a sort in the order in which they went in. -/
theorem filter_mergeSort (trans : ∀ a b c, le a b → le b c → le a c) (total : ∀ a b, le a b ∨ le b a)
    {tied : α → Bool} (ties : ∀ a b, tied a = true → tied b = true → le a b) (items : List α) :
    (items.mergeSort fun a b => decide (le a b)).filter tied = items.filter tied := by
  have level : (items.filter tied).Pairwise fun a b => decide (le a b) = true := by
    apply List.pairwise_of_forall_mem_list
    intro a left b right
    exact decide_eq_true (ties a b (List.mem_filter.1 left).2 (List.mem_filter.1 right).2)
  have kept : (items.filter tied).Sublist (items.mergeSort fun a b => decide (le a b)) := by
    apply List.sublist_mergeSort _ _ level List.filter_sublist
    · simpa using trans
    · simpa using total
  have within := kept.filter tied
  rw [List.filter_filter] at within
  simp only [Bool.and_self] at within
  have same := ((List.mergeSort_perm items fun a b => decide (le a b)).filter tied).length_eq
  exact (within.eq_of_length same.symm).symm

/-- An order of the items that go into a sort decides between those that tie. -/
theorem pairwise_mergeSort (trans : ∀ a b c, le a b → le b c → le a c) (total : ∀ a b, le a b ∨ le b a)
    {items : List α} (given : items.Pairwise R) :
    (items.mergeSort fun a b => decide (le a b)).Pairwise fun a b => le a b ∧ (le b a → R a b) := by
  have sorted : (items.mergeSort fun a b => decide (le a b)).Pairwise fun a b => decide (le a b) = true := by
    apply List.pairwise_mergeSort
    · simpa using trans
    · simpa using total
  simp only [decide_eq_true_eq] at sorted
  refine sorted.and (List.pairwise_iff_forall_sublist.2 ?_)
  intro a b pair back
  have forth := List.pairwise_iff_forall_sublist.1 sorted pair
  have refl (c : α) : le c c := (total c c).elim id id
  -- nothing moves among the items that tie with the first of the two
  have level := pair.filter fun c => decide (le a c ∧ le c a)
  rw [filter_mergeSort trans total] at level
  · have both : [a, b].filter (fun c => decide (le a c ∧ le c a)) = [a, b] := by
      simp [refl, forth, back]
    rw [both] at level
    exact List.pairwise_iff_forall_sublist.1 given (level.trans List.filter_sublist)
  · intro c d left right
    rw [decide_eq_true_eq] at left right
    exact trans c a d left.2 right.1

end StableSorts

variable {add : Double → Double → Double}

namespace RankBy

/-- Whether a snapshot has the smaller key: the latencies of both directions together, at most the greatest
word, or the sum of the rates in the total order of doubles. -/
def Below (add : Double → Double → Double) : RankBy → Snapshot → Snapshot → Prop
  | .latency, left, right =>
    min (left.readLatency.toNat + left.writeLatency.toNat) (UInt64.size - 1) <
      min (right.readLatency.toNat + right.writeLatency.toNat) (UInt64.size - 1)
  | .rate, left, right =>
    (add left.readRate left.writeRate).Precedes (add right.readRate right.writeRate)
  | .throughput, left, right =>
    (add left.readThroughput left.writeThroughput).Precedes
      (add right.readThroughput right.writeThroughput)

theorem below_iff (rankBy : RankBy) (left right : Snapshot) :
    rankBy.Below add left right ↔ rankBy.key add left < rankBy.key add right := by
  cases rankBy with
  | latency =>
    have exact (snapshot : Snapshot) : snapshot.combinedLatency.toNat =
        min (snapshot.readLatency.toNat + snapshot.writeLatency.toNat) (UInt64.size - 1) := by
      rw [Snapshot.combinedLatency, UInt64.toNat_ofNat_of_lt']
      exact Nat.lt_of_le_of_lt (Nat.min_le_right _ _) (by decide)
    rw [Below, key, key, exact, exact]
  | rate => exact (Double.rank_lt_rank_iff _ _).symm
  | throughput => exact (Double.rank_lt_rank_iff _ _).symm

instance (rankBy : RankBy) (left right : Snapshot) : Decidable (rankBy.Below add left right) :=
  decidable_of_iff _ (rankBy.below_iff left right).symm

end RankBy

namespace Ranking

variable {rankBy : RankBy}

/-! ## Rankings -/

/-- Whether a snapshot stands before another, each with its position: it has the greater key, or the same
and the smaller name, or both the same and the earlier position. -/
def Outranks (add : Double → Double → Double) (rankBy : RankBy) (left right : Snapshot × Nat) : Prop :=
  rankBy.Below add right.1 left.1 ∨
    ¬ rankBy.Below add left.1 right.1 ∧
      (Names.bytes left.1.entity < Names.bytes right.1.entity ∨
        left.1.entity = right.1.entity ∧ left.2 < right.2)

instance (rankBy : RankBy) (left right : Snapshot × Nat) : Decidable (Outranks add rankBy left right) :=
  inferInstanceAs (Decidable (_ ∨ _ ∧ (_ ∨ _)))

/-- All snapshots with their positions, each before those that it outranks. -/
structure IsRanking (add : Double → Double → Double) (rankBy : RankBy) (snapshots : List Snapshot)
    (ranking : List (Snapshot × Nat)) : Prop where
  complete : ranking.Perm snapshots.zipIdx
  ordered : ranking.Pairwise (Outranks add rankBy)

theorem Outranks.asymm {left right : Snapshot × Nat} (forth : Outranks add rankBy left right) :
    ¬ Outranks add rankBy right left := by
  intro back
  simp only [Outranks, RankBy.below_iff] at forth back
  rcases forth with greater | ⟨notSmaller, first | ⟨same, earlier⟩⟩
  · rcases back with smaller | ⟨notGreater, _⟩
    · omega
    · exact notGreater greater
  · rcases back with smaller | ⟨_, second | ⟨same, _⟩⟩
    · exact notSmaller smaller
    · exact List.lt_asymm first second
    · rw [same] at first
      exact List.lt_irrefl _ first
  · rcases back with smaller | ⟨_, second | ⟨_, later⟩⟩
    · exact notSmaller smaller
    · rw [same] at second
      exact List.lt_irrefl _ second
    · omega

/-- There is one ranking at most. -/
theorem IsRanking.unique {snapshots : List Snapshot} {ranking other : List (Snapshot × Nat)}
    (ranks : IsRanking add rankBy snapshots ranking) (ranks' : IsRanking add rankBy snapshots other) :
    ranking = other := by
  apply List.Perm.eq_of_pairwise _ ranks.ordered ranks'.ordered
  · exact ranks.complete.trans ranks'.complete.symm
  · intro left right _ _ forth back
    exact absurd back forth.asymm

/-! ## The two sorts -/

section Arranging

variable {α : Type} (add) (snapshot : α → Snapshot) (rankBy : RankBy)

/-- Items that hold snapshots, sorted by name and then by key. -/
def arrange (items : List α) : List α :=
  (items.mergeSort fun left right => decide ((snapshot left).entity ≤ (snapshot right).entity)).mergeSort
    fun left right => decide (rankBy.key add (snapshot right) ≤ rankBy.key add (snapshot left))

theorem top_eq (snapshots : List Snapshot) (count : Nat) (rankBy : RankBy) :
    top add snapshots count rankBy = (arrange add id rankBy snapshots).take count := rfl

theorem arrange_perm (items : List α) : (arrange add snapshot rankBy items).Perm items :=
  (List.mergeSort_perm _ _).trans (List.mergeSort_perm _ _)

/-- What the items hold beside the snapshots plays no part. -/
theorem map_arrange (items : List α) :
    (arrange add snapshot rankBy items).map snapshot = arrange add id rankBy (items.map snapshot) := by
  have named : (items.mergeSort fun left right =>
      decide ((snapshot left).entity ≤ (snapshot right).entity)).map snapshot =
        (items.map snapshot).mergeSort fun left right => decide (left.entity ≤ right.entity) :=
    List.map_mergeSort fun _ _ _ _ => rfl
  unfold arrange
  dsimp only [id]
  rw [← named]
  exact List.map_mergeSort fun _ _ _ _ => rfl

/-- The key decides first, then the name, then the order that the items had. -/
theorem pairwise_arrange {R : α → α → Prop} {items : List α} (given : items.Pairwise R) :
    (arrange add snapshot rankBy items).Pairwise fun left right =>
      rankBy.key add (snapshot right) ≤ rankBy.key add (snapshot left) ∧
        (rankBy.key add (snapshot left) ≤ rankBy.key add (snapshot right) →
          (snapshot left).entity ≤ (snapshot right).entity ∧
            ((snapshot right).entity ≤ (snapshot left).entity → R left right)) := by
  apply pairwise_mergeSort
  · intro a b c first second
    exact Nat.le_trans second first
  · intro a b
    exact Nat.le_total _ _
  · apply pairwise_mergeSort _ _ given
    · intro a b c first second
      exact String.le_trans first second
    · intro a b
      exact String.le_total _ _

/-- Snapshots alone are in the order of keys, and under one key in the order of names. -/
theorem ordered_arrange (snapshots : List Snapshot) :
    (arrange add id rankBy snapshots).Pairwise fun left right =>
      rankBy.key add right ≤ rankBy.key add left ∧
        (rankBy.key add left ≤ rankBy.key add right → left.entity ≤ right.entity) := by
  have anyhow : snapshots.Pairwise fun _ _ => True := List.pairwise_of_forall fun _ _ => trivial
  apply (pairwise_arrange add id rankBy anyhow).imp
  intro left right ⟨notBelow, ties⟩
  exact ⟨notBelow, fun tie => (ties tie).1⟩

end Arranging

/-! ## Every ranking is the arrangement -/

/-- The snapshots arranged with their positions are a ranking. -/
theorem isRanking_arrange (add : Double → Double → Double) (snapshots : List Snapshot) (rankBy : RankBy) :
    IsRanking add rankBy snapshots (arrange add Prod.fst rankBy snapshots.zipIdx) where
  complete := arrange_perm _ _ _ _
  ordered := by
    have positions : snapshots.zipIdx.Pairwise fun left right => left.2 < right.2 := by
      rw [← List.pairwise_map, List.zipIdx_map_snd]
      exact List.pairwise_lt_range'
    apply (pairwise_arrange add Prod.fst rankBy positions).imp
    intro left right ⟨notBelow, ties⟩
    unfold Outranks
    rw [RankBy.below_iff, RankBy.below_iff]
    by_cases tie : rankBy.key add left.1 ≤ rankBy.key add right.1
    · obtain ⟨named, alike⟩ := ties tie
      refine .inr ⟨by omega, ?_⟩
      by_cases back : right.1.entity ≤ left.1.entity
      · exact .inr ⟨String.le_antisymm named back, alike back⟩
      · exact .inl (Names.bytes_lt_of_lt (String.not_le.1 back))
    · exact .inl (by omega)

theorem top_of_isRanking {snapshots : List Snapshot} {ranking : List (Snapshot × Nat)}
    (ranks : IsRanking add rankBy snapshots ranking) (count : Nat) :
    top add snapshots count rankBy = (ranking.map Prod.fst).take count := by
  rw [ranks.unique (isRanking_arrange add snapshots rankBy), map_arrange, List.zipIdx_map_fst, top_eq]

/-- Snapshots of distinct names are arranged alike in whatever order they come. -/
theorem arrange_perm_congr {snapshots others : List Snapshot} (perm : others.Perm snapshots)
    (distinct : (snapshots.map Snapshot.entity).Nodup) :
    arrange add id rankBy others = arrange add id rankBy snapshots := by
  apply List.Perm.eq_of_pairwise _ (ordered_arrange add rankBy others) (ordered_arrange add rankBy snapshots)
  · exact (arrange_perm _ _ _ _).trans (perm.trans (arrange_perm _ _ _ _).symm)
  · intro left right member member' ⟨notBelow, ties⟩ ⟨notBelow', ties'⟩
    have held := perm.mem_iff.1 ((arrange_perm _ _ _ _).mem_iff.1 member)
    have held' := (arrange_perm _ _ _ _).mem_iff.1 member'
    exact List.inj_on_of_nodup_map distinct held held'
      (String.le_antisymm (ties notBelow') (ties' notBelow))

/-! ## The top -/

/-- However rates are added, the top is the beginning of the one ranking that the snapshots have. Nobody left
out has a greater key than anyone in it, and a greater count only appends. Where names are distinct, the
order in which the snapshots are given plays no part, and so an analyzer's table of the latest may be gone
through in any order. -/
theorem top_begins_ranking (add : Double → Double → Double) (snapshots : List Snapshot) (rankBy : RankBy) :
    (∃ ranking, IsRanking add rankBy snapshots ranking ∧
      (∀ other, IsRanking add rankBy snapshots other → other = ranking) ∧
      ∀ count, top add snapshots count rankBy = (ranking.map Prod.fst).take count) ∧
    (∀ count, (top add snapshots count rankBy).length = min count snapshots.length) ∧
    (∀ count, ∃ omitted, (top add snapshots count rankBy ++ omitted).Perm snapshots ∧
      ∀ included ∈ top add snapshots count rankBy, ∀ leftOut ∈ omitted, ¬ rankBy.Below add included leftOut) ∧
    (∀ count more, count ≤ more → top add snapshots count rankBy <+: top add snapshots more rankBy) ∧
    ((snapshots.map Snapshot.entity).Nodup → ∀ others, others.Perm snapshots → ∀ count,
      top add others count rankBy = top add snapshots count rankBy) ∧
    ∀ settings calls others, others.Perm (Analyzer.run settings calls).view.latest.values →
      ∀ count, top add others count rankBy = (Analyzer.run settings calls).top add count rankBy := by
  have ranks := isRanking_arrange add snapshots rankBy
  have arranged := arrange_perm add id rankBy snapshots
  refine ⟨⟨_, ranks, fun other ranks' => ranks'.unique ranks, top_of_isRanking ranks⟩, ?_, ?_, ?_, ?_, ?_⟩
  · intro count
    rw [top_eq, List.length_take, arranged.length_eq]
  · intro count
    refine ⟨(arrange add id rankBy snapshots).drop count, ?_, ?_⟩
    · rwa [top_eq, List.take_append_drop]
    · intro included member leftOut member'
      have ordered := ordered_arrange add rankBy snapshots
      rw [← List.take_append_drop count (arrange add id rankBy snapshots), List.pairwise_append] at ordered
      rw [RankBy.below_iff]
      exact Nat.not_lt.2 (ordered.2.2 included member leftOut member').1
  · intro count more le
    exact List.take_prefix_take_left le
  · intro distinct others perm count
    rw [top_eq, top_eq, arrange_perm_congr perm distinct]
  · intro settings calls others perm count
    have reflects := Analyzer.Reflects.run settings calls
    have distinct := (Analyzer.run settings calls).view.latest.distinct
    rw [Analyzer.top, top_eq, top_eq, arrange_perm_congr perm]
    rw [reflects.names_latest]
    exact distinct

/-- Rates of every kind, from the last in the ranking to the first: a NaN of negative sign, infinities that
have no sum, negative zero, zero twice under different names, and a NaN. -/
def oddRates : List Snapshot :=
  [{ entity := "n", readRate := ⟨0xFFF8000000000001⟩ },
    { entity := "b", readRate := ⟨0x7FF0000000000000⟩, writeRate := ⟨0xFFF0000000000000⟩ },
    { entity := "d", readRate := .negativeZero, writeRate := .negativeZero }, { entity := "e" },
    { entity := "c" }, { entity := "a", readRate := ⟨0x7FF8000000000000⟩ }]

theorem isRanking_oddRates : IsRanking .sum .rate oddRates oddRates.zipIdx.reverse where
  complete := List.reverse_perm _
  ordered := by decide +kernel

theorem top_begins_ranking_odd_rates :
    (top .sum oddRates 9 .rate).map Snapshot.entity = ["a", "c", "e", "d", "b", "n"] ∧
      top .sum oddRates 3 .rate <+: top .sum oddRates 9 .rate ∧
      top .sum oddRates.reverse 3 .rate = top .sum oddRates 3 .rate ∧
      let analyzer := Analyzer.run {} [.applyCycle oddRates]
      top .sum analyzer.view.latest.values.reverse 3 .rate = analyzer.top .sum 3 .rate := by
  obtain ⟨⟨ranking, _, unique, begins⟩, _, _, appends, anyOrder, viewed⟩ :=
    top_begins_ranking .sum oddRates .rate
  obtain rfl := unique _ isRanking_oddRates
  refine ⟨?_, appends 3 9 (by decide), ?_, ?_⟩
  · rw [begins]
    rfl
  · exact anyOrder (by decide) _ (List.reverse_perm _) 3
  · exact viewed {} [.applyCycle oddRates] _ (List.reverse_perm _) 3

end Ranking

end StorageTrace
