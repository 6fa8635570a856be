import StorageTrace.Snapshot

/-! # Rankings

Snapshots in descending order of a key. Snapshots of equal keys are in ascending order of names, and
those of equal names too keep the order in which they were given. How rates are added is given.
-/

namespace StorageTrace

/-- What snapshots are ranked by, reads and writes taken together. -/
inductive RankBy where
  | latency
  | rate
  | throughput
  deriving DecidableEq, Repr, Inhabited

namespace RankBy

/-- The key of a snapshot as a number that orders as the key does. -/
def key (add : Double → Double → Double) (rankBy : RankBy) (snapshot : Snapshot) : Nat :=
  match rankBy with
  | .latency => snapshot.combinedLatency.toNat
  | .rate => (snapshot.combinedRate add).rank
  | .throughput => (snapshot.combinedThroughput add).rank

end RankBy

namespace Ranking

/-- The highest-ranked snapshots, at most so many. -/
def top (add : Double → Double → Double) (snapshots : List Snapshot) (count : Nat)
    (rankBy : RankBy) : List Snapshot :=
  let named := snapshots.mergeSort fun left right => decide (left.entity ≤ right.entity)
  let ranked := named.mergeSort fun left right => decide (rankBy.key add right ≤ rankBy.key add left)
  ranked.take count

end Ranking

end StorageTrace
