import Throughput.Numeric.Word
import Throughput.Probe.State
import Throughput.Probe.Timers
import Throughput.Train

/-!
# Probes

The receiving side of a packet-train run. Every datagram restarts both timers, whether it holds a
record or not; the first one sets the time from which receiver stamps count. Errors that only say
that the peer is not there yet change nothing.
-/

namespace Throughput

inductive SocketFault where
  | connectionRefused
  | connectionReset
  | permissionDenied
  | notFound
  | timedOut
  | other
  deriving DecidableEq, Repr

/-- The peer is not listening, which it may still begin to do. -/
def SocketFault.isUnreachable : SocketFault → Bool
  | .connectionRefused | .connectionReset => true
  | _ => false

inductive Reception where
  | datagram (bytes : Datagram)
  | failure (fault : SocketFault) (cause : String)
  deriving DecidableEq, Repr

/-- A reception and how long after the call for it it comes. -/
structure Delivery where
  delay : Nat
  reception : Reception
  deriving DecidableEq, Repr

/-- Why a probe stops receiving. -/
inductive ReceptionEnd where
  | inactive
  | quiet
  | cancelled
  | failed (cause : String)
  deriving DecidableEq, Repr

/-- A probe with the states that it has entered so far, the present one last. -/
structure Probe where
  states : List ProbeState
  buckets : Buckets
  epoch : Option Nat
  bytes : Nat
  inactiveAt : Nat
  quietAt : Option Nat
  deriving DecidableEq, Repr

namespace Probe

def ofIterations (iterations : UInt16) (timers : ProbeTimers) : Probe :=
  { states := [.idle]
    buckets := .ofIterations iterations
    epoch := none
    bytes := 0
    inactiveAt := timers.inactivity
    quietAt := none }

def state (probe : Probe) : ProbeState :=
  probe.states.getLastD .initial

def enter (probe : Probe) (state : ProbeState) : Probe :=
  { probe with states := probe.states ++ [state] }

/-- Only the first datagram makes a probe begin to receive. -/
def awaken (probe : Probe) : Probe :=
  match probe.epoch with
  | none => probe.enter .receiving
  | some _ => probe

/-- Files the record of a datagram. Anything else is dropped. -/
def file (buckets : Buckets) (datagram : Datagram) (received : Nat) : Buckets :=
  match TrainRecord.decode datagram with
  | .ok record => (buckets.insert record (Numeric.clampWord64 received)).1
  | .error _ => buckets

def receive (probe : Probe) (timers : ProbeTimers) (now : Nat) (datagram : Datagram) : Probe :=
  let epoch := probe.epoch.getD now
  { states := probe.awaken.states
    buckets := file probe.buckets datagram (now - epoch)
    epoch := some epoch
    bytes := probe.bytes + datagram.length
    inactiveAt := now + timers.inactivity
    quietAt := some (now + timers.quiet) }

/-- The timer that fires first. On one instant the inactivity timer comes before the quiet one. -/
def timer (probe : Probe) : Nat × ReceptionEnd :=
  match probe.quietAt with
  | some quietAt =>
    if quietAt < probe.inactiveAt then (quietAt, .quiet) else (probe.inactiveAt, .inactive)
  | none => (probe.inactiveAt, .inactive)

/-- When the probe stops unless something arrives before, and why. -/
def deadline (probe : Probe) (cancelAt : Option Nat) : Nat × ReceptionEnd :=
  match cancelAt with
  | some time => if time ≤ probe.timer.1 then (time, .cancelled) else probe.timer
  | none => probe.timer

end Probe

/-- How receiving ended: the probe as it was then, the states that it was in at each call of
receive, and the time and the reason of the end. -/
structure Listening where
  probe : Probe
  polled : List ProbeState
  time : Nat
  ending : ReceptionEnd
  deriving DecidableEq, Repr

/-- Listening that began with one more call, made in the given state. -/
def Listening.after (state : ProbeState) (listening : Listening) : Listening :=
  { listening with polled := state :: listening.polled }

namespace Probe

/-- The end of a probe that nothing reaches in time. A deadline that is already reached ends it
before it calls for a datagram. -/
def expire (probe : Probe) (cancelAt : Option Nat) (now : Nat) : Listening :=
  let (stop, ending) := probe.deadline cancelAt
  if stop ≤ now then ⟨probe, [], now, ending⟩ else ⟨probe, [probe.state], stop, ending⟩

/-- Takes deliveries until one comes too late or none is left. -/
def listen (timers : ProbeTimers) (cancelAt : Option Nat) :
    (probe : Probe) → (now : Nat) → List Delivery → Listening
  | probe, now, [] => probe.expire cancelAt now
  | probe, now, delivery :: rest =>
    let arrival := now + delivery.delay
    if (probe.deadline cancelAt).1 ≤ arrival then
      probe.expire cancelAt now
    else
      match delivery.reception with
      | .datagram datagram =>
        (listen timers cancelAt (probe.receive timers arrival datagram) arrival rest).after
          probe.state
      | .failure fault cause =>
        if fault.isUnreachable then
          (listen timers cancelAt probe arrival rest).after probe.state
        else
          ⟨probe, [probe.state], arrival, .failed cause⟩

end Probe

end Throughput
