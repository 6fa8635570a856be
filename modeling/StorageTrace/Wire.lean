import StorageTrace.Event

/-! # The wire format of events

A record is 48 bytes, little-endian: a header of 24 bytes with the time, the process, the task, the
probe and the direction, then a payload of 24 bytes with the handle, the byte count and the cgroup.
Decoding looks at the length of the header first, then at the probe, the direction and the length of
the payload, and never at the six spare bytes or at what follows the record.
-/

namespace StorageTrace

namespace LittleEndian

/-- The number that a list of bytes stands for, least significant byte first. -/
def toNat : List UInt8 → Nat
  | [] => 0
  | byte :: rest => byte.toNat + 256 * toNat rest

/-- The lowest bytes of a number. -/
def ofNat : (width : Nat) → Nat → List UInt8
  | 0, _ => []
  | width + 1, value => UInt8.ofNat value :: ofNat width (value / 256)

@[simp] theorem length_ofNat (width value : Nat) : (ofNat width value).length = width := by
  induction width generalizing value with
  | zero => rfl
  | succ width ih => simp [ofNat, ih]

theorem toNat_ofNat (width value : Nat) : toNat (ofNat width value) =
    value % Nat.pow 256 width := by
  induction width generalizing value with
  | zero => simp [ofNat, toNat, Nat.mod_one]
  | succ width ih =>
    have digit : (UInt8.ofNat value).toNat = value % 256 := UInt8.toNat_ofNat'
    have more : Nat.pow 256 (width + 1) = 256 * Nat.pow 256 width := Nat.mul_comm _ _
    rw [ofNat, toNat, ih, digit, more, Nat.mod_mul]

theorem toNat_lt (bytes : List UInt8) : toNat bytes < Nat.pow 256 bytes.length := by
  induction bytes with
  | nil => exact Nat.one_pos
  | cons byte rest ih =>
    have low := byte.toNat_lt
    have more : Nat.pow 256 (rest.length + 1) = Nat.pow 256 rest.length * 256 := rfl
    rw [toNat, List.length_cons, more]
    omega

theorem ofNat_toNat (bytes : List UInt8) : ofNat bytes.length (toNat bytes) = bytes := by
  induction bytes with
  | nil => rfl
  | cons byte rest ih =>
    have := byte.toNat_lt
    have low : UInt8.ofNat (byte.toNat + 256 * toNat rest) = byte := by
      apply UInt8.toNat_inj.1
      rw [UInt8.toNat_ofNat']
      omega
    have high : (byte.toNat + 256 * toNat rest) / 256 = toNat rest := by omega
    rw [List.length_cons, toNat, ofNat, low, high, ih]

end LittleEndian

/-- Why a sample is not an event. -/
inductive DecodeError where
  | truncated (length : Nat)
  | unknownProbe (raw : UInt8)
  | invalidDirection (raw : UInt8)
  | payloadTruncated (probe : Probe)
  deriving DecidableEq, Repr, Inhabited

namespace DecodeError

/-- The label under which a rejected sample is counted. -/
def kind : DecodeError → String
  | .truncated _ => "truncated"
  | .unknownProbe _ => "unknown_probe"
  | .invalidDirection _ => "invalid_op"
  | .payloadTruncated _ => "payload_truncated"

def message : DecodeError → String
  | .truncated length => s!"event too short: {length} bytes"
  | .unknownProbe raw => s!"unknown probe kind: {raw.toNat}"
  | .invalidDirection raw => s!"invalid op byte: {raw.toNat}"
  | .payloadTruncated probe => s!"reading {probe.name}: unexpected end of data"

end DecodeError

namespace Wire

/-- The bytes of the header, of the payload and of a whole record. -/
def headerSize : Nat := 24

def payloadSize : Nat := 24

def recordSize : Nat := headerSize + payloadSize

/-- The number in a field of a record. -/
def field (sample : List UInt8) (offset width : Nat) : Nat :=
  LittleEndian.toNat ((sample.drop offset).take width)

/-- Reads the event at the start of a sample. The probe's own direction wins over the recorded one. -/
def decode (sample : List UInt8) : Except DecodeError Event :=
  if sample.length < headerSize then .error (.truncated sample.length)
  else
    let rawProbe := sample.getD 16 0
    match Probe.ofCode? rawProbe with
    | none => .error (.unknownProbe rawProbe)
    | some probe =>
      let rawDirection := sample.getD 17 0
      match Direction.ofCode? rawDirection with
      | none => .error (.invalidDirection rawDirection)
      | some direction =>
        if sample.length < recordSize then .error (.payloadTruncated probe)
        else .ok
          { timestamp := UInt64.ofNat (field sample 0 8)
            pid := UInt32.ofNat (field sample 8 4)
            tid := UInt32.ofNat (field sample 12 4)
            probe
            direction := probe.impliedDirection?.getD direction
            handle := UInt64.ofNat (field sample 24 8)
            bytes := UInt64.ofNat (field sample 32 8)
            cgroup := UInt64.ofNat (field sample 40 8)
            entity := none }

/-- Writes an event as a record, with the direction that it carries and zeros in the spare bytes. -/
def encode (event : Event) : List UInt8 :=
  LittleEndian.ofNat 8 event.timestamp.toNat ++ LittleEndian.ofNat 4 event.pid.toNat ++
    LittleEndian.ofNat 4 event.tid.toNat ++ [event.probe.code, event.direction.code] ++
    LittleEndian.ofNat 6 0 ++ LittleEndian.ofNat 8 event.handle.toNat ++
    LittleEndian.ofNat 8 event.bytes.toNat ++ LittleEndian.ofNat 8 event.cgroup.toNat

theorem length_encode (event : Event) : (encode event).length = recordSize := by
  simp [encode, recordSize, headerSize, payloadSize]

end Wire

end StorageTrace
