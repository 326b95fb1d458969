import Throughput.Address.Ipv6
import Throughput.Numeric.Word

/-!
# Socket addresses

An address of a host together with a port. The IPv6 form stands in brackets and may name a scope.
-/

namespace Throughput.Address

inductive Ip where
  | v4 (address : Ipv4)
  | v6 (address : Ipv6)
  deriving DecidableEq, Repr

def Ip.parse? (text : List Char) : Option Ip :=
  match Ipv4.parse? text with
  | some address => some (.v4 address)
  | none => (Ipv6.parse? text).map .v6

inductive Socket where
  | v4 (address : Ipv4) (port : UInt16)
  | v6 (address : Ipv6) (port : UInt16) (scope : UInt32)
  deriving DecidableEq, Repr

namespace Socket

def ofIp (ip : Ip) (port : UInt16) : Socket :=
  match ip with
  | .v4 address => .v4 address port
  | .v6 address => .v6 address port 0

def text : Socket → List Char
  | .v4 address port => address.text ++ ':' :: Text.decimal port.toNat
  | .v6 address port scope =>
    let shownScope := if scope = 0 then [] else '%' :: Text.decimal scope.toNat
    '[' :: address.mixedText ++ shownScope ++ "]:".toList ++ Text.decimal port.toNat

/-- A decimal number up to a limit. Leading zeros do not matter. -/
def numberUpTo? (limit : Nat) (text : List Char) : Option Nat :=
  match Text.decimal? text with
  | some n => if n ≤ limit then some n else none
  | none => none

def port? (text : List Char) : Option UInt16 :=
  (numberUpTo? Numeric.maxWord16 text).map UInt16.ofNat

def scope? (text : List Char) : Option UInt32 :=
  (numberUpTo? Numeric.maxWord32 text).map UInt32.ofNat

def parseV4? (text : List Char) : Option Socket :=
  match Text.splitOn ':' text with
  | [host, port] => do
    return .v4 (← Ipv4.parse? host) (← port? port)
  | _ => none

def parseScoped? (text : List Char) : Option (Ipv6 × UInt32) :=
  match Text.splitOn '%' text with
  | [address] => do return (← Ipv6.parse? address, 0)
  | [address, scope] => do return (← Ipv6.parse? address, ← scope? scope)
  | _ => none

def parseV6? (text : List Char) : Option Socket :=
  match text with
  | '[' :: rest =>
    match Text.splitOn ']' rest with
    | [inside, ':' :: port] => do
      let (address, scope) ← parseScoped? inside
      return .v6 address (← port? port) scope
    | _ => none
  | _ => none

def parseChars? (text : List Char) : Option Socket :=
  match parseV4? text with
  | some address => some address
  | none => parseV6? text

def parse? (text : String) : Option Socket :=
  parseChars? text.toList

end Socket

end Throughput.Address
