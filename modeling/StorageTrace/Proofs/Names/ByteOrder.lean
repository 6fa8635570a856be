import StorageTrace.Names

/-! # Names in the order of their bytes

The order of code points and the order of UTF-8 bytes are the same: a character with the greater code
point has the greater byte at the first place where the encodings differ, and neither encoding begins
with the other.
-/

namespace StorageTrace

namespace Names

/-- The bytes of a name in UTF-8. -/
def bytes (name : String) : List UInt8 := name.toUTF8.data.toList

theorem bytes_eq_flatMap (name : String) : bytes name = name.toList.flatMap String.utf8EncodeChar := by
  have encoded : name.toUTF8 = name.toList.utf8Encode := by
    rw [String.toUTF8, ← String.utf8Encode_toList]
  rw [bytes, encoded, List.utf8Encode]
  simp

/-- The first byte decides unless it is the same in both. -/
theorem cons_lt_cons {left right : Nat} {rest later : List UInt8} (small : right < 256)
    (order : left ≤ right) (tie : left = right → rest < later) :
    UInt8.ofNat left :: rest < UInt8.ofNat right :: later := by
  rw [List.cons_lt_cons_iff, UInt8.lt_iff_toNat_lt, UInt8.toNat_ofNat', UInt8.toNat_ofNat',
    Nat.mod_eq_of_lt small, Nat.mod_eq_of_lt (Nat.lt_of_le_of_lt order small)]
  rcases Nat.lt_or_eq_of_le order with below | same
  · exact .inl below
  · exact .inr ⟨congrArg UInt8.ofNat same, tie same⟩

/-- A smaller character has a smaller encoding, whatever follows. -/
theorem encode_append_lt {left right : Char} (below : left < right) (rest later : List UInt8) :
    String.utf8EncodeChar left ++ rest < String.utf8EncodeChar right ++ later := by
  have order : left.val.toNat < right.val.toNat := below
  have bound : right.val.toNat < 1114112 := by
    have valid := right.valid
    rw [UInt32.isValidChar, Nat.isValidChar] at valid
    omega
  unfold String.utf8EncodeChar
  generalize left.val.toNat = v at order
  generalize right.val.toNat = w at order bound
  -- the cases are the lengths of both encodings; of the same length, the bytes decide from the first on
  dsimp only
  split
  · split
    · exact cons_lt_cons (by omega) (by omega) fun tie => by omega
    · split
      · exact cons_lt_cons (by omega) (by omega) fun tie => by omega
      · split
        · exact cons_lt_cons (by omega) (by omega) fun tie => by omega
        · exact cons_lt_cons (by omega) (by omega) fun tie => by omega
  · rw [if_neg (show ¬ w ≤ 127 by omega)]
    split
    · split
      · refine cons_lt_cons (by omega) (by omega) fun first => ?_
        exact cons_lt_cons (by omega) (by omega) fun second => by omega
      · split
        · exact cons_lt_cons (by omega) (by omega) fun tie => by omega
        · exact cons_lt_cons (by omega) (by omega) fun tie => by omega
    · rw [if_neg (show ¬ w ≤ 2047 by omega)]
      split
      · split
        · refine cons_lt_cons (by omega) (by omega) fun first => ?_
          refine cons_lt_cons (by omega) (by omega) fun second => ?_
          exact cons_lt_cons (by omega) (by omega) fun third => by omega
        · exact cons_lt_cons (by omega) (by omega) fun tie => by omega
      · rw [if_neg (show ¬ w ≤ 65535 by omega)]
        refine cons_lt_cons (by omega) (by omega) fun first => ?_
        refine cons_lt_cons (by omega) (by omega) fun second => ?_
        refine cons_lt_cons (by omega) (by omega) fun third => ?_
        exact cons_lt_cons (by omega) (by omega) fun fourth => by omega

/-- Names in ascending order are so by their bytes. -/
theorem bytes_lt_of_lt {left right : String} (below : left < right) : bytes left < bytes right := by
  rw [bytes_eq_flatMap, bytes_eq_flatMap]
  rw [String.lt_iff] at below
  generalize left.toList = first at below
  generalize right.toList = second at below
  induction first generalizing second with
  | nil =>
    cases second with
    | nil => exact absurd below (List.lt_irrefl _)
    | cons char rest =>
      rw [List.flatMap_nil, List.flatMap_cons]
      cases encoded : String.utf8EncodeChar char with
      | nil => exact absurd encoded String.utf8EncodeChar_ne_nil
      | cons byte more => exact List.nil_lt_cons _ _
  | cons char rest ih =>
    cases second with
    | nil => exact absurd below (List.not_lt_nil _)
    | cons other later =>
      rw [List.flatMap_cons, List.flatMap_cons]
      rcases List.cons_lt_cons_iff.1 below with smaller | ⟨rfl, restBelow⟩
      · exact encode_append_lt smaller _ _
      · exact List.append_left_lt (ih _ restBelow)

end Names

end StorageTrace
