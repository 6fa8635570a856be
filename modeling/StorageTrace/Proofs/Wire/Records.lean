import StorageTrace.Wire

/-! # Records and their events

A sample begins with the record of an event where each figure of the event stands at its place and the
two codes name its probe and a direction. Decoding finds the event of the record, if there is one, and
otherwise tells what the sample lacks. Several records may stand for one event: they differ in the spare
bytes and in a direction that the probe overrules. Encoding writes the one among them that has zeros there
and the probe's own direction.
-/

namespace StorageTrace

namespace Probe

theorem ofCode?_eq_some_iff {raw : UInt8} {probe : Probe} :
    ofCode? raw = some probe ↔ raw = probe.code := by
  constructor
  · intro found
    have same := List.find?_some found
    exact (of_decide_eq_true same).symm
  · rintro rfl
    exact ofCode?_code probe

theorem code_inj {probe other : Probe} : probe.code = other.code ↔ probe = other := by
  rw [← ofCode?_eq_some_iff, ofCode?_code, Option.some_inj]

/-- The codes of probes are those from one to nine. -/
theorem exists_code_iff (raw : UInt8) :
    (∃ probe : Probe, raw = probe.code) ↔ 1 ≤ raw.toNat ∧ raw.toNat ≤ 9 := by
  constructor
  · rintro ⟨probe, rfl⟩
    cases probe <;> decide
  · rintro ⟨above, below⟩
    have named : ∀ code : Fin 10, 1 ≤ code.val →
        ∃ probe ∈ all, UInt8.ofNat code.val = probe.code := by decide
    obtain ⟨probe, _, same⟩ := named ⟨raw.toNat, by omega⟩ above
    rw [UInt8.ofNat_toNat] at same
    exact ⟨probe, same⟩

end Probe

namespace Direction

theorem ofCode?_eq_some_iff {raw : UInt8} {direction : Direction} :
    ofCode? raw = some direction ↔ raw = direction.code := by
  constructor
  · intro found
    unfold ofCode? at found
    split at found
    · rename_i zero
      cases found
      exact zero
    · split at found
      · rename_i one
        cases found
        exact one
      · cases found
  · rintro rfl
    exact ofCode?_code direction

end Direction

namespace Event

/-- What a record keeps of an event: the probe's own direction, if it has one, and no entity. -/
def recorded (event : Event) : Event :=
  { event with
    direction := event.probe.impliedDirection?.getD event.direction
    entity := none }

end Event

namespace Wire

/-- The sample has the code of a probe at its place. -/
def NamesProbe (sample : List UInt8) : Prop :=
  ∃ raw, sample[16]? = some raw ∧ 1 ≤ raw.toNat ∧ raw.toNat ≤ 9

/-- The sample has the code of a direction at its place. -/
def NamesDirection (sample : List UInt8) : Prop := sample[17]? = some 0 ∨ sample[17]? = some 1

/-- The sample begins with a record of the event. -/
structure Records (sample : List UInt8) (event : Event) : Prop where
  whole : 48 ≤ sample.length
  timestamp : (sample.drop 0).take 8 = LittleEndian.ofNat 8 event.timestamp.toNat
  pid : (sample.drop 8).take 4 = LittleEndian.ofNat 4 event.pid.toNat
  tid : (sample.drop 12).take 4 = LittleEndian.ofNat 4 event.tid.toNat
  probe : sample[16]? = some event.probe.code
  direction : ∃ noted : Direction, sample[17]? = some noted.code ∧
    event.direction = event.probe.impliedDirection?.getD noted
  handle : (sample.drop 24).take 8 = LittleEndian.ofNat 8 event.handle.toNat
  bytes : (sample.drop 32).take 8 = LittleEndian.ofNat 8 event.bytes.toNat
  cgroup : (sample.drop 40).take 8 = LittleEndian.ofNat 8 event.cgroup.toNat
  unattributed : event.entity = none

/-- The record at the start of a sample with the direction of its probe and zeros in the spare bytes. -/
def canonical (probe : Probe) (sample : List UInt8) : List UInt8 :=
  sample.take 17 ++
    ((probe.impliedDirection?.map fun direction => [direction.code]).getD ((sample.drop 17).take 1)) ++
    List.replicate 6 0 ++ (sample.drop 24).take 24

theorem namesProbe_iff {sample : List UInt8} :
    NamesProbe sample ↔ ∃ probe : Probe, sample[16]? = some probe.code := by
  constructor
  · rintro ⟨raw, found, within⟩
    obtain ⟨probe, rfl⟩ := (Probe.exists_code_iff raw).2 within
    exact ⟨probe, found⟩
  · rintro ⟨probe, found⟩
    exact ⟨probe.code, found, (Probe.exists_code_iff _).1 ⟨probe, rfl⟩⟩

theorem namesDirection_iff {sample : List UInt8} :
    NamesDirection sample ↔ ∃ direction : Direction, sample[17]? = some direction.code := by
  constructor
  · rintro (found | found)
    · exact ⟨.read, found⟩
    · exact ⟨.write, found⟩
  · rintro ⟨direction, found⟩
    cases direction with
    | read => exact .inl found
    | write => exact .inr found

/-! ## Fields -/

section Field

variable {sample : List UInt8} {offset width : Nat}

theorem field_lt (sample : List UInt8) (offset width : Nat) :
    field sample offset width < Nat.pow 256 width := by
  have size : ((sample.drop offset).take width).length ≤ width := List.length_take_le _ _
  exact Nat.lt_of_lt_of_le (LittleEndian.toNat_lt _) (Nat.pow_le_pow_right (by decide) size)

/-- A field inside the sample has the value whose bytes stand there. -/
theorem field_eq_iff (inside : offset + width ≤ sample.length) {value : Nat}
    (small : value < Nat.pow 256 width) :
    field sample offset width = value ↔
      (sample.drop offset).take width = LittleEndian.ofNat width value := by
  have size : ((sample.drop offset).take width).length = width := by
    rw [List.length_take, List.length_drop]
    omega
  constructor
  · rintro rfl
    have bytes := LittleEndian.ofNat_toNat ((sample.drop offset).take width)
    rw [size] at bytes
    exact bytes.symm
  · intro bytes
    rw [field, bytes, LittleEndian.toNat_ofNat, Nat.mod_eq_of_lt small]

theorem word64_eq_iff (inside : offset + 8 ≤ sample.length) (word : UInt64) :
    UInt64.ofNat (field sample offset 8) = word ↔
      (sample.drop offset).take 8 = LittleEndian.ofNat 8 word.toNat := by
  have value : (UInt64.ofNat (field sample offset 8)).toNat = field sample offset 8 :=
    UInt64.toNat_ofNat_of_lt (field_lt sample offset 8)
  rw [← field_eq_iff inside word.toNat_lt, ← UInt64.toNat_inj, value]

theorem word32_eq_iff (inside : offset + 4 ≤ sample.length) (word : UInt32) :
    UInt32.ofNat (field sample offset 4) = word ↔
      (sample.drop offset).take 4 = LittleEndian.ofNat 4 word.toNat := by
  have value : (UInt32.ofNat (field sample offset 4)).toNat = field sample offset 4 :=
    UInt32.toNat_ofNat_of_lt (field_lt sample offset 4)
  rw [← field_eq_iff inside word.toNat_lt, ← UInt32.toNat_inj, value]

end Field

/-! ## Decoding -/

/-- The event that the fields of a sample make with a probe and a direction that is noted for it. -/
def eventOf (sample : List UInt8) (probe : Probe) (noted : Direction) : Event :=
  { timestamp := UInt64.ofNat (field sample 0 8)
    pid := UInt32.ofNat (field sample 8 4)
    tid := UInt32.ofNat (field sample 12 4)
    probe
    direction := probe.impliedDirection?.getD noted
    handle := UInt64.ofNat (field sample 24 8)
    bytes := UInt64.ofNat (field sample 32 8)
    cgroup := UInt64.ofNat (field sample 40 8)
    entity := none }

section Decode

variable {sample : List UInt8} {event : Event}

/-- A sample with both codes lacks nothing but perhaps a part of its payload. -/
theorem decode_of_codes {probe : Probe} {noted : Direction}
    (atProbe : sample[16]? = some probe.code) (atDirection : sample[17]? = some noted.code)
    (header : 24 ≤ sample.length) :
    decode sample =
      if sample.length < 48 then .error (.payloadTruncated probe)
      else .ok (eventOf sample probe noted) := by
  have long : ¬ sample.length < headerSize := Nat.not_lt.2 header
  simp only [decode, if_neg long, List.getD_eq_getElem?_getD, atProbe, atDirection, Option.getD_some,
    Probe.ofCode?_code, Direction.ofCode?_code]
  rfl

/-- What becomes of a sample: each outcome with what brings it about. -/
theorem decode_cases (sample : List UInt8) :
    (sample.length < 24 ∧ decode sample = .error (.truncated sample.length)) ∨
    24 ≤ sample.length ∧
      ((∃ raw, sample[16]? = some raw ∧ ¬ NamesProbe sample ∧
        decode sample = .error (.unknownProbe raw)) ∨
      ∃ probe : Probe, sample[16]? = some probe.code ∧
        ((∃ raw, sample[17]? = some raw ∧ ¬ NamesDirection sample ∧
          decode sample = .error (.invalidDirection raw)) ∨
        ∃ noted : Direction, sample[17]? = some noted.code ∧
          ((sample.length < 48 ∧ decode sample = .error (.payloadTruncated probe)) ∨
          48 ≤ sample.length ∧ decode sample = .ok (eventOf sample probe noted)))) := by
  by_cases short : sample.length < 24
  · exact .inl ⟨short, if_pos short⟩
  · have header : ¬ sample.length < headerSize := short
    obtain ⟨rawProbe, atProbe⟩ : ∃ raw, sample[16]? = some raw :=
      ⟨sample[16], List.getElem?_eq_getElem (by omega)⟩
    obtain ⟨rawDirection, atDirection⟩ : ∃ raw, sample[17]? = some raw :=
      ⟨sample[17], List.getElem?_eq_getElem (by omega)⟩
    refine .inr ⟨by omega, ?_⟩
    cases named : Probe.ofCode? rawProbe with
    | none =>
      refine .inl ⟨rawProbe, atProbe, ?_, ?_⟩
      · rw [namesProbe_iff, atProbe]
        rintro ⟨probe, same⟩
        rw [Probe.ofCode?_eq_some_iff.2 (Option.some.inj same)] at named
        cases named
      · simp only [decode, if_neg header, List.getD_eq_getElem?_getD, atProbe, Option.getD_some, named]
    | some probe =>
      obtain rfl := Probe.ofCode?_eq_some_iff.1 named
      refine .inr ⟨probe, atProbe, ?_⟩
      cases directed : Direction.ofCode? rawDirection with
      | none =>
        refine .inl ⟨rawDirection, atDirection, ?_, ?_⟩
        · rw [namesDirection_iff, atDirection]
          rintro ⟨direction, same⟩
          rw [Direction.ofCode?_eq_some_iff.2 (Option.some.inj same)] at directed
          cases directed
        · simp only [decode, if_neg header, List.getD_eq_getElem?_getD, atProbe, atDirection,
            Option.getD_some, named, directed]
      | some direction =>
        obtain rfl := Direction.ofCode?_eq_some_iff.1 directed
        have read := decode_of_codes atProbe atDirection (by omega)
        refine .inr ⟨direction, atDirection, ?_⟩
        by_cases partly : sample.length < 48
        · exact .inl ⟨partly, by rw [read, if_pos partly]⟩
        · exact .inr ⟨by omega, by rw [read, if_neg partly]⟩

/-- The fields of a record are those of its event. -/
theorem records_iff :
    Records sample event ↔
      48 ≤ sample.length ∧ sample[16]? = some event.probe.code ∧
        ∃ noted : Direction, sample[17]? = some noted.code ∧ eventOf sample event.probe noted = event := by
  obtain ⟨timestamp, pid, tid, cgroup, probe, direction, handle, bytes, entity⟩ := event
  constructor
  · intro records
    obtain ⟨noted, atDirection, directed⟩ := records.direction
    have whole := records.whole
    refine ⟨whole, records.probe, noted, atDirection, ?_⟩
    simp only [eventOf, Event.mk.injEq]
    exact ⟨(word64_eq_iff (by omega) _).2 records.timestamp, (word32_eq_iff (by omega) _).2 records.pid,
      (word32_eq_iff (by omega) _).2 records.tid, (word64_eq_iff (by omega) _).2 records.cgroup, trivial,
      directed.symm, (word64_eq_iff (by omega) _).2 records.handle,
      (word64_eq_iff (by omega) _).2 records.bytes, records.unattributed.symm⟩
  · rintro ⟨whole, atProbe, noted, atDirection, same⟩
    simp only [eventOf, Event.mk.injEq] at same
    obtain ⟨timestamp, pid, tid, cgroup, -, direction, handle, bytes, entity⟩ := same
    exact
      { whole
        timestamp := (word64_eq_iff (by omega) _).1 timestamp
        pid := (word32_eq_iff (by omega) _).1 pid
        tid := (word32_eq_iff (by omega) _).1 tid
        probe := atProbe
        direction := ⟨noted, atDirection, direction.symm⟩
        handle := (word64_eq_iff (by omega) _).1 handle
        bytes := (word64_eq_iff (by omega) _).1 bytes
        cgroup := (word64_eq_iff (by omega) _).1 cgroup
        unattributed := entity.symm }

/-- Decoding finds the event of the record with which a sample begins, and no other. -/
theorem decode_eq_ok_iff : decode sample = .ok event ↔ Records sample event := by
  rw [records_iff]
  constructor
  · intro found
    rcases decode_cases sample with ⟨_, other⟩ | ⟨_, ⟨_, _, _, other⟩ |
        ⟨probe, atProbe, ⟨_, _, _, other⟩ | ⟨noted, atDirection, ⟨_, other⟩ | ⟨whole, same⟩⟩⟩⟩
    · rw [other] at found
      cases found
    · rw [other] at found
      cases found
    · rw [other] at found
      cases found
    · rw [other] at found
      cases found
    · rw [same] at found
      cases found
      exact ⟨whole, atProbe, noted, atDirection, rfl⟩
  · rintro ⟨whole, atProbe, noted, atDirection, same⟩
    rw [decode_of_codes atProbe atDirection (by omega), if_neg (Nat.not_lt.2 whole), same]

end Decode

/-! ## Encoding -/

/-- Bytes that stand behind others in a list are found at the place where those end. -/
theorem bytes_at (left : List UInt8) {record block right : List UInt8} {offset width : Nat}
    (split : record = left ++ (block ++ right)) (before : left.length = offset)
    (size : block.length = width) : (record.drop offset).take width = block := by
  rw [split, List.drop_left' before, List.take_left' size]

theorem byte_at {bytes : List UInt8} {place : Nat} {byte : UInt8} (found : bytes[place]? = some byte) :
    (bytes.drop place).take 1 = [byte] := by
  obtain ⟨inside, rfl⟩ := List.getElem?_eq_some_iff.1 found
  rw [List.drop_eq_getElem_cons inside]
  rfl

/-- Bytes from one place up to a second and on from there to a third are those from the first to the
third. -/
theorem take_append_take (bytes : List UInt8) (offset width more : Nat) :
    (bytes.drop offset).take width ++ (bytes.drop (offset + width)).take more =
      (bytes.drop offset).take (width + more) := by
  rw [List.take_add, List.drop_drop]

/-- Encoding writes a record of what a record keeps of the event. -/
theorem records_encode (event : Event) : Records (encode event) event.recorded := by
  let time := LittleEndian.ofNat 8 event.timestamp.toNat
  let tasks := LittleEndian.ofNat 4 event.pid.toNat ++ LittleEndian.ofNat 4 event.tid.toNat
  let codes := [event.probe.code, event.direction.code] ++ LittleEndian.ofNat 6 0
  let handle := LittleEndian.ofNat 8 event.handle.toNat
  let bytes := LittleEndian.ofNat 8 event.bytes.toNat
  let payload := handle ++ (bytes ++ LittleEndian.ofNat 8 event.cgroup.toNat)
  have size := LittleEndian.length_ofNat
  have header : (time ++ tasks).length = 16 := by simp [time, tasks]
  have layout : encode event = (time ++ tasks) ++ (codes ++ payload) := by
    simp only [encode, List.append_assoc]
    rfl
  have atProbe : (encode event)[16]? = some event.probe.code := by
    rw [layout, List.getElem?_append_right (by omega), header]
    rfl
  have atDirection : (encode event)[17]? = some event.direction.code := by
    rw [layout, List.getElem?_append_right (by omega), header]
    rfl
  refine ⟨?_, ?_, ?_, ?_, atProbe, ⟨event.direction, atDirection, rfl⟩, ?_, ?_, ?_, rfl⟩
  · rw [length_encode]
    decide
  · exact bytes_at [] (by rw [layout, List.append_assoc]; rfl) rfl (size _ _)
  · exact bytes_at time (by simp only [layout, tasks, List.append_assoc]; rfl) (size _ _) (size _ _)
  · exact bytes_at (time ++ LittleEndian.ofNat 4 event.pid.toNat)
      (by simp only [layout, tasks, List.append_assoc]; rfl) (by simp [time]) (size _ _)
  · exact bytes_at (time ++ tasks ++ codes) (by simp only [layout, List.append_assoc]; rfl)
      (by simp [time, tasks, codes]) (size _ _)
  · exact bytes_at (time ++ tasks ++ codes ++ handle)
      (by simp only [layout, payload, List.append_assoc]; rfl)
      (by simp [time, tasks, codes, handle]) (size _ _)
  · exact bytes_at (time ++ tasks ++ codes ++ handle ++ bytes)
      (by rw [List.append_nil]; simp only [layout, payload, List.append_assoc]; rfl)
      (by simp [time, tasks, codes, handle, bytes]) (size _ _)

theorem decode_encode (event : Event) : decode (encode event) = .ok event.recorded :=
  decode_eq_ok_iff.2 (records_encode event)

section Canonical

variable {sample : List UInt8} {event : Event}

/-- An event that has been recorded is what its own record keeps of it. -/
theorem Records.recorded_eq (records : Records sample event) : event.recorded = event := by
  obtain ⟨noted, _, directed⟩ := records.direction
  have direction : event.probe.impliedDirection?.getD event.direction = event.direction := by
    rw [directed]
    cases event.probe.impliedDirection? <;> rfl
  rw [Event.recorded, direction, ← records.unattributed]

/-- Encoding the event of a record gives the canonical record. -/
theorem Records.encode_eq (records : Records sample event) :
    encode event = canonical event.probe sample := by
  have direction : [event.direction.code] =
      (event.probe.impliedDirection?.map fun direction => [direction.code]).getD
        ((sample.drop 17).take 1) := by
    obtain ⟨noted, atDirection, directed⟩ := records.direction
    rw [byte_at atDirection, directed]
    cases event.probe.impliedDirection? <;> rfl
  have head : sample.take 17 =
      LittleEndian.ofNat 8 event.timestamp.toNat ++ LittleEndian.ofNat 4 event.pid.toNat ++
        LittleEndian.ofNat 4 event.tid.toNat ++ [event.probe.code] := by
    rw [← records.timestamp, ← records.pid, ← records.tid, ← byte_at records.probe]
    rw [take_append_take sample 0 8 4, take_append_take sample 0 12 4, take_append_take sample 0 16 1]
    rfl
  have payload : (sample.drop 24).take 24 =
      LittleEndian.ofNat 8 event.handle.toNat ++ LittleEndian.ofNat 8 event.bytes.toNat ++
        LittleEndian.ofNat 8 event.cgroup.toNat := by
    rw [← records.handle, ← records.bytes, ← records.cgroup, take_append_take sample 24 8 8,
      take_append_take sample 24 16 8]
  rw [canonical, ← direction, head, payload, encode]
  simp only [List.append_assoc, List.cons_append, List.nil_append]
  rfl

end Canonical

/-! ## Bytes that make no difference -/

theorem field_take {bound offset width : Nat} (inside : offset + width ≤ bound) (sample : List UInt8) :
    field (sample.take bound) offset width = field sample offset width := by
  rw [field, List.drop_take, List.take_take, Nat.min_eq_left (by omega), field]

theorem field_drop (sample : List UInt8) (start offset width : Nat) :
    field (sample.drop start) offset width = field sample (start + offset) width := by
  rw [field, List.drop_drop, field]

/-- Samples that agree up to the spare bytes and in the payload are decoded alike. -/
theorem decode_congr {sample other : List UInt8} (whole : 48 ≤ sample.length) (whole' : 48 ≤ other.length)
    (header : other.take 18 = sample.take 18)
    (payload : (other.drop 24).take 24 = (sample.drop 24).take 24) : decode other = decode sample := by
  have byte : ∀ place, place < 18 → other.getD place 0 = sample.getD place 0 := by
    intro place inside
    have same := congrArg (·[place]?) header
    rw [List.getElem?_take_of_lt inside, List.getElem?_take_of_lt inside] at same
    rw [List.getD_eq_getElem?_getD, same, ← List.getD_eq_getElem?_getD]
  have inHeader : ∀ offset width, offset + width ≤ 18 →
      field other offset width = field sample offset width := by
    intro offset width inside
    rw [← field_take inside other, header, field_take inside]
  have inPayload : ∀ offset width, offset + width ≤ 24 →
      field other (24 + offset) width = field sample (24 + offset) width := by
    intro offset width inside
    rw [← field_drop, ← field_take inside, payload, field_take inside, field_drop]
  have sizes : ∀ bytes : List UInt8, 48 ≤ bytes.length →
      ¬ bytes.length < headerSize ∧ ¬ bytes.length < recordSize := by
    intro bytes long
    exact ⟨fun short => absurd (Nat.lt_of_lt_of_le short (by decide)) (Nat.not_lt.2 long),
      Nat.not_lt.2 long⟩
  simp only [decode, sizes sample whole, sizes other whole', if_false, byte 16 (by decide),
    byte 17 (by decide), inHeader 0 8 (by decide), inHeader 8 4 (by decide), inHeader 12 4 (by decide),
    inPayload 0 8 (by decide), inPayload 8 8 (by decide), inPayload 16 8 (by decide)]

/-! ## The codec -/

/-- A sample is decoded just when it is long enough and names a probe and a direction; otherwise the first
of these that fails is reported. What is encoded is decoded to what a record keeps of it. What is decoded
is the event of the record at the start of the sample; it is encoded to the canonical record, and from
there decoded again. The spare bytes and those behind the record are never looked at. -/
theorem decode_reads_records :
    (∀ sample,
      ((∃ event, decode sample = .ok event) ↔
        48 ≤ sample.length ∧ NamesProbe sample ∧ NamesDirection sample) ∧
      (∀ length, decode sample = .error (.truncated length) ↔
        sample.length < 24 ∧ length = sample.length) ∧
      (∀ raw, decode sample = .error (.unknownProbe raw) ↔
        24 ≤ sample.length ∧ ¬ NamesProbe sample ∧ sample[16]? = some raw) ∧
      (∀ raw, decode sample = .error (.invalidDirection raw) ↔
        24 ≤ sample.length ∧ NamesProbe sample ∧ ¬ NamesDirection sample ∧ sample[17]? = some raw) ∧
      ∀ probe, decode sample = .error (.payloadTruncated probe) ↔
        24 ≤ sample.length ∧ sample.length < 48 ∧ NamesDirection sample ∧
          sample[16]? = some probe.code) ∧
    (∀ event, decode (encode event) = .ok event.recorded) ∧
    (∀ sample event, decode sample = .ok event →
      Records sample event ∧ encode event = canonical event.probe sample ∧
        decode (encode event) = .ok event) ∧
    ∀ sample other, 48 ≤ sample.length → 48 ≤ other.length → other.take 18 = sample.take 18 →
      (other.drop 24).take 24 = (sample.drop 24).take 24 → decode other = decode sample := by
  refine ⟨?_, decode_encode, ?_, fun sample other => decode_congr⟩
  · -- each outcome rules out what the others are brought about by
    intro sample
    rcases decode_cases sample with ⟨short, same⟩ | ⟨long, ⟨raw, atProbe, unnamed, same⟩ |
        ⟨probe, atProbe, ⟨raw, atDirection, undirected, same⟩ |
          ⟨noted, atDirection, ⟨partly, same⟩ | ⟨whole, same⟩⟩⟩⟩
    · rw [same]
      grind
    · have elsewhere : ∀ probe : Probe, sample[16]? ≠ some probe.code :=
        fun probe found => unnamed (namesProbe_iff.2 ⟨probe, found⟩)
      rw [same]
      grind
    · have named := namesProbe_iff.2 ⟨probe, atProbe⟩
      rw [same]
      grind
    · have named := namesProbe_iff.2 ⟨probe, atProbe⟩
      have directed := namesDirection_iff.2 ⟨noted, atDirection⟩
      have only : ∀ other : Probe, sample[16]? = some other.code ↔ probe = other := by
        intro other
        rw [atProbe, Option.some_inj, Probe.code_inj]
      rw [same]
      grind
    · have named := namesProbe_iff.2 ⟨probe, atProbe⟩
      have directed := namesDirection_iff.2 ⟨noted, atDirection⟩
      rw [same]
      grind
  · intro sample event found
    have records := decode_eq_ok_iff.1 found
    exact ⟨records, records.encode_eq, by rw [decode_encode, records.recorded_eq]⟩

/-- The end of a write that is noted as a read, with bytes in the spare places and one behind the record. -/
def overruled : List UInt8 :=
  LittleEndian.ofNat 8 300 ++ LittleEndian.ofNat 4 7 ++ LittleEndian.ofNat 4 8 ++
    [Probe.writeExit.code, Direction.read.code] ++ [1, 2, 3, 4, 5, 6] ++ LittleEndian.ofNat 8 9 ++
    LittleEndian.ofNat 8 4096 ++ LittleEndian.ofNat 8 0 ++ [255]

theorem decode_reads_records_overruled :
    let event : Event :=
      { timestamp := 300, pid := 7, tid := 8, probe := .writeExit, direction := .write, handle := 9,
        bytes := 4096 }
    decode overruled = .ok event ∧ encode event = canonical .writeExit overruled ∧
      decode (encode event) = .ok event ∧ decode (overruled.take 48) = .ok event := by
  intro event
  obtain ⟨-, -, decoded, alike⟩ := decode_reads_records
  have found : decode overruled = .ok event := rfl
  obtain ⟨_, encoded, again⟩ := decoded overruled event found
  have whole := alike overruled (overruled.take 48) (by decide) (by decide) rfl rfl
  exact ⟨found, encoded, again, whole.trans found⟩

end Wire

end StorageTrace
