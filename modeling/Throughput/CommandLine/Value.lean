import Throughput.Address.Socket
import Throughput.Text.Digits

/-!
# Values on the command line
-/

namespace Throughput.CommandLine

inductive ValueFault where
  | empty
  | malformed
  deriving DecidableEq, Repr

abbrev Reader (α : Type) := String → Except ValueFault α

namespace Reader

variable {α : Type}

def ofOption (read : String → Option α) : Reader α := fun text =>
  match read text with
  | some value => .ok value
  | none => .error .malformed

def anyText : Reader String := .ok

def path : Reader String := fun text =>
  if text.isEmpty then .error .empty else .ok text

def socket : Reader Address.Socket :=
  ofOption Address.Socket.parse?

/-- A number up to a limit that may have a sign. Zero may have a minus. -/
def signedUpTo? (limit : Nat) (text : String) : Option Nat :=
  let (negative, digits) := Text.splitSign text.toList
  match Text.decimal? digits with
  | some n => if n ≤ limit ∧ (negative → n = 0) then some n else none
  | none => none

def unsignedUpTo? (limit : Nat) (text : String) : Option Nat :=
  let (negative, digits) := Text.splitSign text.toList
  match negative, Text.decimal? digits with
  | false, some n => if n ≤ limit then some n else none
  | _, _ => none

def word16 : Reader UInt16 :=
  ofOption fun text => (signedUpTo? Numeric.maxWord16 text).map UInt16.ofNat

def word32 : Reader UInt32 :=
  ofOption fun text => (signedUpTo? Numeric.maxWord32 text).map UInt32.ofNat

def word64 : Reader UInt64 :=
  ofOption fun text => (unsignedUpTo? Numeric.maxWord64 text).map UInt64.ofNat

end Reader

end Throughput.CommandLine
