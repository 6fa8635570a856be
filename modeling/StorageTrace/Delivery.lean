import StorageTrace.Wire

/-! # Delivering samples to handlers

A subscription selects the probes of interest. Each sample that decodes to a selected event goes to
every event handler in turn; each sample that does not decode goes to every error handler. Only the
last error handler is given the cause itself, the ones before it are given its text.
-/

namespace StorageTrace

/-- A selection of probes. -/
structure Subscription where
  probes : List Probe := []
  deriving DecidableEq, Repr, Inhabited

namespace Subscription

/-- Selecting nothing in particular selects every probe. -/
def admits (subscription : Subscription) (probe : Probe) : Bool :=
  subscription.probes.isEmpty || subscription.probes.contains probe

/-- The selection of the probes with the given names; other names are passed over. -/
def ofNames (names : List String) : Subscription := ⟨names.filterMap Probe.ofName?⟩

end Subscription

/-- What goes wrong while events are taken in. -/
inductive Failure where
  | decode (cause : DecodeError)
  | source (text : String)
  deriving DecidableEq, Repr, Inhabited

namespace Failure

def message : Failure → String
  | .decode cause => cause.message
  | .source text => text

/-- The failure with its cause reduced to its text. -/
def asText (failure : Failure) : Failure := .source failure.message

end Failure

/-- One call of a handler; handlers of either sort are numbered from zero. -/
inductive Delivery where
  | event (handler : Nat) (event : Event)
  | failure (handler : Nat) (failure : Failure)
  deriving DecidableEq, Repr, Inhabited

/-- Who listens to a source, and to what. -/
structure Audience where
  subscription : Subscription := {}
  eventHandlers : Nat := 1
  errorHandlers : Nat := 1
  deriving DecidableEq, Repr, Inhabited

namespace Audience

/-- Hands one event to every event handler. -/
def dispatch (audience : Audience) (event : Event) : List Delivery :=
  (List.range audience.eventHandlers).map fun handler => .event handler event

/-- Hands one failure to every error handler, the cause itself to the last of them. -/
def report (audience : Audience) (failure : Failure) : List Delivery :=
  match audience.errorHandlers with
  | 0 => []
  | others + 1 =>
    (List.range others).map (fun handler => .failure handler failure.asText) ++
      [.failure others failure]

/-- What the handlers are given for one sample. -/
def deliver (audience : Audience) (sample : List UInt8) : List Delivery :=
  match Wire.decode sample with
  | .ok event => if audience.subscription.admits event.probe then audience.dispatch event else []
  | .error cause => audience.report (.decode cause)

/-- What the handlers are given for a list of samples. -/
def deliverAll (audience : Audience) (samples : List (List UInt8)) : List Delivery :=
  samples.flatMap audience.deliver

/-- Samples held in memory are delivered in order, unless the run is cancelled before it starts. -/
def replay (audience : Audience) (samples : List (List UInt8)) (cancelled : Bool) : List Delivery :=
  if cancelled then [] else audience.deliverAll samples

end Audience

end StorageTrace
