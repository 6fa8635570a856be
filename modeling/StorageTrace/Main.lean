import Std.Time.DateTime
import StorageTrace.CommandLine

/-! # The program

Reads what the command line names, prints what a run leaves behind, and keeps an agent at work until
the program is ended from outside. Everything that is decided is decided in the modules below.
-/

namespace StorageTrace.Program

/-- What the system says about a failed call. -/
def systemText : IO.Error → String
  | .noFileOrDirectory _ code text | .permissionDenied _ code text
  | .inappropriateType _ code text => s!"{text} (os error {code})"
  | error => toString error

/-- The bytes at a path, or what the system says about it. -/
def readBytes (path : String) : IO (Except IO.Error ByteArray) := do
  try return .ok (← IO.FS.withFile path .read fun handle => handle.readBinToEnd)
  catch error => return .error error

/-- The text at a path, or why there is none. -/
def readText (path : String) : IO (Except String String) := do
  match ← readBytes path with
  | .error error => return .error (systemText error)
  | .ok bytes =>
    match String.fromUTF8? bytes with
    | some text => return .ok text
    | none => return .error "stream did not contain valid UTF-8"

/-- The source of samples at a path. -/
def readSource (path : String) : IO Source := do
  match ← readBytes path with
  | .ok bytes => return .bytes bytes.toList
  | .error (.noFileOrDirectory ..) => return .unreachable .noEntry
  | .error (.inappropriateType ..) => return .directory
  | .error _ => return .bytes []

/-- The cgroup tree: the numbers of its directories cannot be asked for from here. -/
def unnumberedTree : CgroupRoot := .unreadable .notSupported

def now : IO Instant := do
  let time := (← Std.Time.Timestamp.now).toNanosecondsSinceUnixEpoch
  return ⟨time.toInt⟩

def print (outcome : Outcome) : IO Unit := do
  let output ← IO.getStdout
  let errors ← IO.getStderr
  outcome.output.forM output.putStrLn
  outcome.errors.forM errors.putStrLn

/-- Nothing is served from here, so every address will do. -/
def listen (_ : String) : Except String Unit := .ok ()

/-- Keeps an agent at work that began some time ago: an interval, the samples that have come, a
cycle. -/
partial def serve (config : Config) (began : Nat) (source : Source) (agent : Agent) : IO Unit := do
  let agent := agent.consume config (.pipe source)
  IO.sleep (UInt32.ofNat (config.monitor.interval.nanos / 1000000))
  let clock : Duration := ⟨(← IO.monoNanosNow) - began⟩
  let (monitor, _) := agent.monitor.tick (Agent.directory config unnumberedTree) clock (← now)
  let next ← if config.source.reopen then readSource config.source.path else pure (.bytes [])
  serve config began next { agent with monitor }

/-- Starts an agent and keeps it at work, or tells why it cannot be started. -/
def start (config : Config) : IO UInt32 := do
  let source ← readSource config.source.path
  match CommandLine.startAgent listen config unnumberedTree source with
  | .error outcome =>
    print outcome
    return UInt32.ofNat outcome.exitCode
  | .ok agent =>
    serve config (← IO.monoNanosNow) source agent
    return 0

/-- Carries out a command line. -/
def run (words : List String) : IO UInt32 := do
  match CommandLine.ofWords words with
  | .finish outcome =>
    print outcome
    return UInt32.ofNat outcome.exitCode
  | .load path invocation =>
    match CommandLine.afterLoad path invocation (← readText path) with
    | .error outcome =>
      print outcome
      return UInt32.ofNat outcome.exitCode
    | .ok config => start config

end StorageTrace.Program

def main (words : List String) : IO UInt32 := StorageTrace.Program.run words
