import StorageTrace.Frame

/-! # The grammar of framed streams

Every stream is cut in one way into whole frames and a rest with which no further frame begins: too few
bytes for a length, too few for the sample that a length announces, or a length above the limit. The cut
depends on the bytes alone. What a reader delivers is what the samples of the frames deliver one by one,
then a report if the rest begins with such a length.
-/

namespace StorageTrace

namespace Frame

/-- The length that the first bytes of a stream announce. -/
def announced (stream : List UInt8) : Nat := LittleEndian.toNat (stream.take lengthSize)

/-- The stream ends before the frame at its head is complete. -/
def Unfinished (stream : List UInt8) : Prop :=
  stream.length < lengthSize ∨
    announced stream ≤ maxLength ∧ stream.length < lengthSize + announced stream

/-- The frame at the head of the stream announces a length above the limit. -/
def Oversized (stream : List UInt8) (length : Nat) : Prop :=
  lengthSize ≤ stream.length ∧ announced stream = length ∧ maxLength < length

/-- A stream is cut into the frames of some samples and a rest with which no frame begins. -/
structure Cut (stream : List UInt8) (samples : List (List UInt8)) (rest : List UInt8) : Prop where
  bytes : stream = encodeAll samples ++ rest
  fits : ∀ sample ∈ samples, sample.length ≤ maxLength
  stops : Unfinished rest ∨ ∃ length, Oversized rest length

/-! ## One frame -/

theorem announced_encode (sample rest : List UInt8) (fits : sample.length ≤ maxLength) :
    announced (encode sample ++ rest) = sample.length := by
  have first : (encode sample ++ rest).take lengthSize =
      LittleEndian.ofNat lengthSize sample.length := by
    rw [encode, List.append_assoc]
    exact List.take_left' (LittleEndian.length_ofNat _ _)
  have small : sample.length < Nat.pow 256 lengthSize := Nat.lt_of_le_of_lt fits (by decide)
  rw [announced, first, LittleEndian.toNat_ofNat, Nat.mod_eq_of_lt small]

theorem length_encode (sample : List UInt8) : (encode sample).length = lengthSize + sample.length := by
  rw [encode, List.length_append, LittleEndian.length_ofNat]

/-- A frame at the head of a stream is found whatever follows it. -/
theorem head_encode (sample rest : List UInt8) (fits : sample.length ≤ maxLength) :
    head (encode sample ++ rest) = .sample sample rest := by
  have size := length_encode sample
  have body : (encode sample ++ rest).drop lengthSize = sample ++ rest := by
    rw [encode, List.append_assoc]
    exact List.drop_left' (LittleEndian.length_ofNat _ _)
  have long : ¬ (encode sample ++ rest).length < lengthSize := by
    rw [List.length_append]
    omega
  have length := announced_encode sample rest fits
  unfold announced at length
  have within : ¬ maxLength < sample.length := Nat.not_lt.2 fits
  have whole : ¬ (sample ++ rest).length < sample.length := by
    rw [List.length_append]
    omega
  simp only [head, if_neg long, length, body, if_neg within, if_neg whole, List.take_left,
    List.drop_left]

/-- What is found at the head of a stream is a frame, and the rest is what follows it. -/
theorem eq_encode_of_head {stream sample rest : List UInt8} (found : head stream = .sample sample rest) :
    stream = encode sample ++ rest ∧ sample.length ≤ maxLength := by
  unfold head at found
  split at found
  · cases found
  · rename_i long
    simp only at found
    split at found
    · cases found
    · rename_i within
      split at found
      · cases found
      · rename_i whole
        injection found with sampleEq restEq
        subst sampleEq restEq
        have size : (stream.take lengthSize).length = lengthSize := List.length_take_of_le (by omega)
        have body : ((stream.drop lengthSize).take (LittleEndian.toNat (stream.take lengthSize))).length =
            LittleEndian.toNat (stream.take lengthSize) := List.length_take_of_le (by omega)
        have first := LittleEndian.ofNat_toNat (stream.take lengthSize)
        rw [size] at first
        refine ⟨?_, by omega⟩
        rw [encode, body, first, List.append_assoc, List.take_append_drop, List.take_append_drop]

/-- Nothing is found where the stream ends within a frame or between two of them. -/
theorem head_of_unfinished {stream : List UInt8} (unfinished : Unfinished stream) :
    head stream = .ended := by
  unfold head
  by_cases short : stream.length < lengthSize
  · rw [if_pos short]
  · obtain ⟨within, partly⟩ := unfinished.resolve_left short
    unfold announced at within partly
    have body : (stream.drop lengthSize).length < LittleEndian.toNat (stream.take lengthSize) := by
      rw [List.length_drop]
      omega
    simp only [if_neg short, if_neg (Nat.not_lt.2 within), if_pos body]

theorem head_of_oversized {stream : List UInt8} {length : Nat} (oversized : Oversized stream length) :
    head stream = .oversized length := by
  obtain ⟨long, rfl, above⟩ := oversized
  unfold announced at above ⊢
  simp only [head, if_neg (Nat.not_lt.2 long), if_pos above]

/-- The stream begins with a frame, or no frame begins with it. -/
theorem head_cases (stream : List UInt8) :
    (∃ sample rest, head stream = .sample sample rest) ∨
      Unfinished stream ∨ ∃ length, Oversized stream length := by
  by_cases short : stream.length < lengthSize
  · exact .inr (.inl (.inl short))
  · by_cases above : maxLength < announced stream
    · exact .inr (.inr ⟨_, by omega, rfl, above⟩)
    · by_cases partly : stream.length < lengthSize + announced stream
      · exact .inr (.inl (.inr ⟨by omega, partly⟩))
      · refine .inl ⟨(stream.drop lengthSize).take (announced stream),
          (stream.drop lengthSize).drop (announced stream), ?_⟩
        have body : ¬ (stream.drop lengthSize).length < announced stream := by
          rw [List.length_drop]
          omega
        unfold announced at above body ⊢
        simp only [head, if_neg short, if_neg above, if_neg body]

/-! ## Whole streams -/

theorem encodeAll_cons (sample : List UInt8) (samples : List (List UInt8)) :
    encodeAll (sample :: samples) = encode sample ++ encodeAll samples :=
  List.flatMap_cons

theorem Cut.not_frame {stream rest : List UInt8} (cut : Cut stream [] rest) (sample later : List UInt8) :
    head stream ≠ .sample sample later := by
  intro found
  have same : stream = rest := cut.bytes
  subst same
  rcases cut.stops with unfinished | ⟨length, oversized⟩
  · rw [head_of_unfinished unfinished] at found
    cases found
  · rw [head_of_oversized oversized] at found
    cases found

theorem Cut.head_cons {stream rest sample : List UInt8} {samples : List (List UInt8)}
    (cut : Cut stream (sample :: samples) rest) :
    head stream = .sample sample (encodeAll samples ++ rest) := by
  rw [cut.bytes, encodeAll_cons, List.append_assoc]
  exact head_encode _ _ (cut.fits sample List.mem_cons_self)

theorem Cut.tail {stream rest sample : List UInt8} {samples : List (List UInt8)}
    (cut : Cut stream (sample :: samples) rest) : Cut (encodeAll samples ++ rest) samples rest where
  bytes := rfl
  fits := fun other member => cut.fits other (List.mem_cons_of_mem _ member)
  stops := cut.stops

/-- There is no more than one way to cut a stream. -/
theorem Cut.unique {stream rest last : List UInt8} {samples others : List (List UInt8)}
    (left : Cut stream samples rest) (right : Cut stream others last) :
    samples = others ∧ rest = last := by
  induction samples generalizing stream others with
  | nil =>
    cases others with
    | nil => exact ⟨rfl, left.bytes.symm.trans right.bytes⟩
    | cons other others => exact absurd right.head_cons (left.not_frame _ _)
  | cons sample samples ih =>
    cases others with
    | nil => exact absurd left.head_cons (right.not_frame _ _)
    | cons other others =>
      have same := left.head_cons.symm.trans right.head_cons
      injection same with sameSample sameLater
      have tail := right.tail
      rw [← sameLater] at tail
      obtain ⟨rfl, rfl⟩ := ih left.tail tail
      exact ⟨by rw [sameSample], rfl⟩

/-- What a stream is split into goes by what stands at its head. -/
theorem samples_split (stream : List UInt8) :
    (split stream).1 =
      match head stream with
      | .ended => []
      | .oversized _ => []
      | .sample sample later => sample :: (split later).1 := by
  rw [split]
  split
  · rename_i found
    rw [found]
  · rename_i found
    rw [found]
  · rename_i found
    rw [found]

theorem samples_split_of_stops {stream : List UInt8}
    (stops : Unfinished stream ∨ ∃ length, Oversized stream length) : (split stream).1 = [] := by
  rcases stops with unfinished | ⟨length, oversized⟩
  · rw [samples_split, head_of_unfinished unfinished]
  · rw [samples_split, head_of_oversized oversized]

/-- Splitting a stream cuts it. -/
theorem cut_split (stream : List UInt8) : ∃ rest, Cut stream (split stream).1 rest := by
  rcases head_cases stream with ⟨sample, later, found⟩ | stops
  · obtain ⟨whole, fits⟩ := eq_encode_of_head found
    obtain ⟨rest, cut⟩ := cut_split later
    rw [samples_split, found]
    refine ⟨rest, ?_, ?_, cut.stops⟩
    · rw [encodeAll_cons, List.append_assoc, ← cut.bytes]
      exact whole
    · intro other member
      rcases List.mem_cons.1 member with rfl | later
      · exact fits
      · exact cut.fits other later
  · rw [samples_split_of_stops stops]
    exact ⟨stream, rfl, by simp, stops⟩
termination_by stream.length
decreasing_by exact head_rest_lt found

end Frame

end StorageTrace
