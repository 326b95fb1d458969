import Throughput.Span

/-!
# Dialing

How the workers of a download come by their connections. A worker waits for an answer until its
timeout and not longer. An attempt may also be refused, or nothing ever comes back.
-/

namespace Throughput

/-- What comes back to a worker that tries to connect, and how long that takes. -/
inductive Attempt where
  | answered (delay : Nat)
  | refused (delay : Nat)
  | lost
  deriving DecidableEq, Repr

/-- When an attempt has ended, and whether the worker is connected. -/
structure Handshake where
  time : Nat
  accepted : Bool
  deriving DecidableEq, Repr

/-- Where nobody listens every answer is a refusal. On one instant the timeout comes before it. -/
def Attempt.handshake (timeout : Nat) (listening : Bool) : Attempt → Handshake
  | .answered delay => if delay < timeout then ⟨delay, listening⟩ else ⟨timeout, false⟩
  | .refused delay => ⟨min delay timeout, false⟩
  | .lost => ⟨timeout, false⟩

namespace Handshake

/-- The last handshake is over. -/
def latest (handshakes : List Handshake) : Nat :=
  handshakes.foldr (fun handshake time => max handshake.time time) 0

def connects (handshakes : List Handshake) (id : Nat) : Bool :=
  (handshakes[id]?.map accepted).getD false

def connected (handshakes : List Handshake) : List Nat :=
  (List.range handshakes.length).filter (connects handshakes)

/-- Attempts were made, and none of them succeeded. -/
def failed (handshakes : List Handshake) : Bool :=
  !handshakes.isEmpty && !handshakes.any accepted

end Handshake

/-- How long each worker waits for its connection, and what comes of its attempt. -/
structure Dialing where
  timeout : Nat
  attempts : List Attempt
  deriving DecidableEq, Repr

namespace Dialing

/-- Every attempt is answered at once. -/
def prompt : Dialing :=
  ⟨Span.ofMillis 5000, []⟩

/-- The handshakes of all workers. An attempt that is not listed is answered at once. -/
def handshakes (dialing : Dialing) (workers : Nat) (listening : Bool) : List Handshake :=
  (List.range workers).map fun id =>
    (dialing.attempts[id]?.getD (.answered 0)).handshake dialing.timeout listening

end Dialing

end Throughput
