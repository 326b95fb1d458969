/-!
# Machine words

The largest values of the words that counters and fields are kept in, and signed arithmetic that
stops at the ends of a 64-bit word.
-/

namespace Throughput.Numeric

def maxWord16 : Nat := 0xFFFF

def maxWord32 : Nat := 0xFFFFFFFF

def maxWord64 : Nat := 0xFFFFFFFFFFFFFFFF

def minSigned64 : Int := -0x8000000000000000

def maxSigned64 : Int := 0x7FFFFFFFFFFFFFFF

def clampWord64 (n : Nat) : UInt64 :=
  UInt64.ofNat (min n maxWord64)

theorem toNat_clampWord64 (n : Nat) : (clampWord64 n).toNat = min n maxWord64 := by
  have small : min n maxWord64 < UInt64.size :=
    Nat.lt_succ_of_le (Nat.min_le_right n maxWord64)
  exact UInt64.toNat_ofNat_of_lt' small

def clampSigned64 (n : Int) : Int :=
  max minSigned64 (min maxSigned64 n)

end Throughput.Numeric
