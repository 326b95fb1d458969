import Throughput.Resolver

/-!
# Networks

What the network of a host lets a program do: which names it can look up, which addresses it can
bind a socket to, which ones a datagram socket can be connected to, and which ones accept a stream.
Where something fails, the cause is the text that the system gives.
-/

namespace Throughput

open Address

structure Network where
  lookup : String → UInt16 → Resolution
  bindFault? : Socket → Option String
  reachFault? : Socket → Option String
  accepts : Socket → Bool

namespace Network

def unreachable : String := "Network is unreachable (os error 101)"

def unknownName : String :=
  "failed to lookup address information: Temporary failure in name resolution"

/-- A host with no interface that is up. Sockets can be bound, but nothing can be reached. -/
def isolated : Network :=
  { lookup := fun _ _ => .error unknownName
    bindFault? := fun _ => none
    reachFault? := fun _ => some unreachable
    accepts := fun _ => false }

/-- A host whose every peer is there and listens. All names mean the host itself. -/
def ideal : Network :=
  { lookup := fun _ port => .ok [.v4 ⟨127, 0, 0, 1⟩ port]
    bindFault? := fun _ => none
    reachFault? := fun _ => none
    accepts := fun _ => true }

def bind (network : Network) (address : Socket) : Except String Unit :=
  match network.bindFault? address with
  | some cause => .error cause
  | none => .ok ()

def reach (network : Network) (address : Socket) : Except String Unit :=
  match network.reachFault? address with
  | some cause => .error cause
  | none => .ok ()

def resolver (network : Network) : Resolver :=
  .system network.lookup

end Network

end Throughput
