import Throughput.Text.Digits
import Throughput.Text.Fields

/-!
# IPv4 addresses
-/

namespace Throughput.Address

structure Ipv4 where
  a : UInt8
  b : UInt8
  c : UInt8
  d : UInt8
  deriving DecidableEq, Repr

namespace Ipv4

def ofNat (n : Nat) : Ipv4 :=
  ⟨UInt8.ofNat (n >>> 24), UInt8.ofNat (n >>> 16), UInt8.ofNat (n >>> 8), UInt8.ofNat n⟩

def text (address : Ipv4) : List Char :=
  Text.joinWith '.' <|
    [address.a, address.b, address.c, address.d].map fun byte => Text.decimal byte.toNat

def byte? (text : List Char) : Option UInt8 :=
  match Text.decimal? text with
  | some n => if n < 256 ∧ (text.length = 1 ∨ text.head? ≠ some '0') then some (.ofNat n) else none
  | none => none

def parse? (text : List Char) : Option Ipv4 :=
  match (Text.splitOn '.' text).mapM byte? with
  | some [a, b, c, d] => some ⟨a, b, c, d⟩
  | _ => none

end Ipv4

end Throughput.Address
