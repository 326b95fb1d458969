import Throughput.Address.Socket

/-!
# Resolvers

Where the addresses of a host come from, in order of preference.
-/

namespace Throughput

open Address

abbrev Resolution := Except String (List Socket)

inductive Resolver where
  /-- The system's own resolver, given how it looks up a name that is no literal address. -/
  | system (lookup : String → UInt16 → Resolution)
  /-- Always the same answer. -/
  | fixed (resolution : Resolution)

namespace Resolver

/-- A literal address stands for itself. -/
def literal? (host : String) (port : UInt16) : Option Socket :=
  (Ip.parse? host.toList).map fun ip => .ofIp ip port

def resolve (resolver : Resolver) (host : String) (port : UInt16) : Resolution :=
  match resolver with
  | .fixed resolution => resolution
  | .system lookup =>
    match literal? host port with
    | some address => .ok [address]
    | none => lookup host port

end Resolver

end Throughput
