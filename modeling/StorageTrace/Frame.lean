import StorageTrace.Delivery
import StorageTrace.SystemError

/-! # Framed streams of samples

A stream is a sequence of frames, each a length of four bytes, little-endian, and that many bytes of
sample. Reading stops without a word where the stream ends, inside a frame or between two frames, and
stops with one report at a length above the limit, after which no byte is looked at.
-/

namespace StorageTrace

namespace Frame

/-- The longest sample that a frame may hold. -/
def maxLength : Nat := 4096

/-- The bytes of a frame's length. -/
def lengthSize : Nat := 4

/-- The frame of a sample. -/
def encode (sample : List UInt8) : List UInt8 :=
  LittleEndian.ofNat lengthSize sample.length ++ sample

/-- The stream of a list of samples. -/
def encodeAll (samples : List (List UInt8)) : List UInt8 := samples.flatMap encode

/-- What stands at the head of a stream. -/
inductive Head where
  | ended
  | oversized (length : Nat)
  | sample (bytes rest : List UInt8)
  deriving DecidableEq, Repr

/-- Looks for one frame at the head of a stream. -/
def head (stream : List UInt8) : Head :=
  if stream.length < lengthSize then .ended
  else
    let length := LittleEndian.toNat (stream.take lengthSize)
    let body := stream.drop lengthSize
    if maxLength < length then .oversized length
    else if body.length < length then .ended
    else .sample (body.take length) (body.drop length)

theorem head_rest_lt {stream bytes rest : List UInt8} (found : head stream = .sample bytes rest) :
    rest.length < stream.length := by
  unfold head at found
  split at found
  · cases found
  · rename_i long
    simp only at found
    split at found
    · cases found
    · split at found
      · cases found
      · injection found with _ tail
        subst tail
        simp only [List.length_drop, lengthSize] at long ⊢
        omega

end Frame

/-- How reading one pass of a source ended. -/
inductive PassEnd where
  | ended
  | failed (text : String)
  deriving DecidableEq, Repr, Inhabited

namespace Frame

/-- The samples of a stream, and how the stream ended. -/
def split (stream : List UInt8) : List (List UInt8) × PassEnd :=
  match _found : head stream with
  | .ended => ([], .ended)
  | .oversized length => ([], .failed s!"sample length {length} exceeds {maxLength}")
  | .sample bytes rest =>
    let (samples, ending) := split rest
    (bytes :: samples, ending)
termination_by stream.length
decreasing_by exact head_rest_lt _found

end Frame

/-- Where framed bytes come from. -/
inductive Source where
  | bytes (content : List UInt8)
  | directory
  | unreachable (cause : SystemError)
  deriving DecidableEq, Repr, Inhabited

namespace Source

/-- Why a source cannot be read at all. -/
inductive StartError where
  | noSource (path : String)
  deriving DecidableEq, Repr, Inhabited

def StartError.message : StartError → String
  | .noSource path => s!"event source {path}"

end Source

namespace Audience

/-- What the handlers are given while a stream is read frame by frame. -/
def read (audience : Audience) (stream : List UInt8) : List Delivery :=
  match _found : Frame.head stream with
  | .ended => []
  | .oversized length =>
    audience.report (.source s!"sample length {length} exceeds {Frame.maxLength}")
  | .sample bytes rest => audience.deliver bytes ++ audience.read rest
termination_by stream.length
decreasing_by exact Frame.head_rest_lt _found

/-- What the handlers are given in one pass over a source that could be started. -/
def pass (audience : Audience) : Source → List Delivery
  | .bytes content => audience.read content
  | .directory => audience.report (.source SystemError.isDirectory.message)
  | .unreachable _ => []

/-- Reads a source from its beginning, and again after every pass if it is to be reopened. The reader is
cancelled before it opens the source once more than the number says. -/
def readLoop (audience : Audience) (source : Source) (reopen : Bool) : Nat → List Delivery
  | 0 => []
  | later + 1 =>
    audience.pass source ++ if reopen then audience.readLoop source reopen later else []

/-- Starts a reader and lets it read a source a number of times, for which it reopens the source if the
number is above one. A source that cannot be reached cannot be started. -/
def follow (audience : Audience) (path : String) (source : Source) (passes : Nat) :
    Except Source.StartError (List Delivery) :=
  match source with
  | .unreachable _ => .error (.noSource path)
  | source => .ok (audience.readLoop source (1 < passes) passes)

end Audience

end StorageTrace
