import Throughput.Download.Dialing
import Throughput.Worker.Task

/-!
# Agendas

Everything that happens to the workers of a download, in order of time. On one instant connections
come first, then requests, timeouts, what the servers do, and at last the cancellation. A server
does what it does in answer to the request, so its times and that of the timeout are counted from
there.
-/

namespace Throughput

inductive Deed where
  | send (bytes : Nat)
  | close
  | reset
  deriving DecidableEq, Repr

/-- A deed and its time, in nanoseconds since the requests went out. -/
structure Action where
  time : Nat
  deed : Deed
  deriving DecidableEq, Repr

/-- What the worker reads, one after the other. Sending nothing has no effect. -/
def Deed.readings : Deed → List Reading
  | .send bytes => (Worker.portions bytes).map .bytes
  | .close => [.bytes 0]
  | .reset => [.broken]

inductive Occurrence where
  | worker (id : Nat) (happening : Happening)
  | cancel
  deriving DecidableEq, Repr

structure Appointment where
  time : Nat
  occurrence : Occurrence
  deriving DecidableEq, Repr

abbrev Agenda := List Appointment

namespace Agenda

def forAll (workers : List Nat) (time : Nat) (happening : Happening) : Agenda :=
  workers.map fun id => ⟨time, .worker id happening⟩

def ofHandshakes (handshakes : List Handshake) : Agenda :=
  handshakes.zipIdx.map fun (handshake, id) =>
    ⟨handshake.time, .worker id (.connected handshake.accepted)⟩

def ofActions (id : Nat) (actions : List Action) : Agenda :=
  actions.flatMap fun action =>
    action.deed.readings.map fun reading => ⟨action.time, .worker id (.read reading)⟩

def ofScripts (scripts : List (List Action)) : Agenda :=
  scripts.zipIdx.flatMap fun (actions, id) => ofActions id actions

def ofCancel (cancelAt : Option Nat) : Agenda :=
  match cancelAt with
  | some time => [⟨time, .cancel⟩]
  | none => []

/-- By time, and without changing the order within an instant. -/
def sort (agenda : Agenda) : Agenda :=
  agenda.mergeSort fun left right => left.time ≤ right.time

def delay (lag : Nat) (agenda : Agenda) : Agenda :=
  agenda.map fun appointment => { appointment with time := appointment.time + lag }

/-- The scripts of the servers that have a worker connected. -/
def served (handshakes : List Handshake) (scripts : List (List Action)) : List (List Action) :=
  List.zipWith (fun handshake actions => if handshake.accepted then actions else []) handshakes
    scripts

/-- When the last handshake is over, all workers that are connected send their requests. From then
on it is up to their servers. -/
def ofRun (handshakes : List Handshake) (firstByteTimeout : Nat) (scripts : List (List Action))
    (cancelAt : Option Nat) : Agenda :=
  let workers := Handshake.connected handshakes
  sort <|
    ofHandshakes handshakes ++
      delay (Handshake.latest handshakes)
        (forAll workers 0 (.written true) ++ forAll workers firstByteTimeout (.read .timeout) ++
          ofScripts (served handshakes scripts)) ++
      ofCancel cancelAt

end Agenda

end Throughput
