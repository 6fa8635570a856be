/-! # Similar words

How alike two words are, from nothing in common at 0 to the same word at 1. Equal letters that stand
near enough to each other are matched, each once; the score is the mean of the matched share of either
word and the share of matches that keep their order.
-/

namespace StorageTrace

namespace Similarity

/-- Takes the first free letter equal to a given one between two places. -/
def claim? (letter : Char) (low high : Nat) : Nat → List (Char × Bool) → Option (List (Char × Bool))
  | _, [] => none
  | place, (other, taken) :: rest =>
    if low ≤ place && place < high && other = letter && !taken then some ((other, true) :: rest)
    else (claim? letter low high (place + 1) rest).map ((other, taken) :: ·)

/-- The letters of a word, from a place on, that find a match, and what is left of the other word. -/
def matchLetters (reach : Nat) : Nat → List Char → List (Char × Bool) → List Char × List (Char × Bool)
  | _, [], others => ([], others)
  | place, letter :: rest, others =>
    match claim? letter (place - reach) (place + reach + 1) 0 others with
    | none => matchLetters reach (place + 1) rest others
    | some claimed =>
      let (matched, left) := matchLetters reach (place + 1) rest claimed
      (letter :: matched, left)

/-- How alike two words are. -/
def score (left right : List Char) : Float :=
  if left.isEmpty && right.isEmpty then 1.0
  else
    let reach := max left.length right.length / 2 - 1
    let (matched, others) := matchLetters reach 0 left (right.map fun letter => (letter, false))
    let mates := (others.filter (·.2)).map (·.1)
    let crossed := ((matched.zip mates).filter fun (one, other) => one ≠ other).length / 2
    let count := matched.length.toFloat
    if matched.isEmpty then 0.0
    else
      (count / left.length.toFloat + count / right.length.toFloat +
        (matched.length - crossed).toFloat / count) / 3.0

/-- The candidates that are like a word, the most alike last. -/
def similar (word : String) (candidates : List String) : List String :=
  let scored := candidates.map fun candidate => (score word.toList candidate.toList, candidate)
  ((scored.filter fun (value, _) => 0.7 < value).mergeSort fun one other => one.1 ≤ other.1).map (·.2)

end Similarity

end StorageTrace
