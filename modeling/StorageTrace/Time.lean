/-! # Durations and instants

Both count whole nanoseconds: a duration from zero on, an instant from the epoch in either direction.
-/

namespace StorageTrace

/-- The number of nanoseconds in a second. -/
def nanosPerSecond : Nat := 1000000000

/-- A length of time in nanoseconds. -/
structure Duration where
  nanos : Nat
  deriving DecidableEq, Repr, Inhabited

namespace Duration

def ofParts (seconds nanos : Nat) : Duration := ⟨seconds * nanosPerSecond + nanos⟩

def ofSeconds (seconds : Nat) : Duration := ofParts seconds 0

def ofMillis (millis : Nat) : Duration := ⟨millis * 1000000⟩

/-- What a clock has advanced by since it showed an earlier time; nothing if that is not earlier. -/
def since (clock earlier : Duration) : Duration := ⟨clock.nanos - earlier.nanos⟩

/-- The whole seconds of a duration. -/
def seconds (duration : Duration) : Nat := duration.nanos / nanosPerSecond

/-- The nanoseconds beyond the whole seconds. -/
def subsecond (duration : Duration) : Nat := duration.nanos % nanosPerSecond

/-- The duration in nanoseconds as a word, at most the greatest one. -/
def saturated (duration : Duration) : UInt64 := UInt64.ofNat (min duration.nanos (UInt64.size - 1))

/-- The duration in seconds as a binary fraction: seconds and nanoseconds are rounded apart. -/
def toSeconds (duration : Duration) : Float :=
  duration.seconds.toUInt64.toFloat + duration.subsecond.toUInt64.toFloat / 1000000000.0

theorem toNat_saturated (duration : Duration) :
    duration.saturated.toNat = min duration.nanos (UInt64.size - 1) := by
  unfold saturated
  have size : UInt64.size = 18446744073709551616 := rfl
  exact UInt64.toNat_ofNat_of_lt (by omega)

end Duration

/-- A point in time in nanoseconds since the epoch. -/
structure Instant where
  nanos : Int
  deriving DecidableEq, Repr, Inhabited

namespace Instant

def epoch : Instant := ⟨0⟩

def ofParts (seconds : Int) (nanos : Nat) : Instant := ⟨seconds * nanosPerSecond + nanos⟩

/-- The whole seconds of an instant, counted down before the epoch. -/
def seconds (instant : Instant) : Int := Int.fdiv instant.nanos nanosPerSecond

/-- The nanoseconds after the whole seconds. -/
def subsecond (instant : Instant) : Nat := (Int.fmod instant.nanos nanosPerSecond).toNat

/-- The later of two instants. -/
def latest (left right : Instant) : Instant := ⟨max left.nanos right.nanos⟩

/-- The least whole seconds of a clock that counts them in a signed word. -/
def minSeconds : Int := -9223372036854775808

/-- The instant a duration earlier, if a clock with 64-bit seconds can show it. -/
def before? (instant : Instant) (duration : Duration) : Option Instant :=
  let nanos := instant.nanos - duration.nanos
  if minSeconds * nanosPerSecond ≤ nanos then some ⟨nanos⟩ else none

end Instant

end StorageTrace
