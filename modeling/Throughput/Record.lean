import Throughput.Error

/-!
# Train records

The header of a packet-train datagram: a 64-bit sender time, a 16-bit train index and a 16-bit
position, big-endian, followed by zeros up to the size of the datagram.
-/

namespace Throughput

abbrev Datagram := List UInt8

def bigEndian (n : Nat) : (width : Nat) → List UInt8
  | 0 => []
  | width + 1 => bigEndian (n / 256) width ++ [UInt8.ofNat n]

def ofBigEndian (bytes : List UInt8) : Nat :=
  bytes.foldl (fun n byte => 256 * n + byte.toNat) 0

@[simp]
theorem length_bigEndian (n width : Nat) : (bigEndian n width).length = width := by
  induction width generalizing n with
  | zero => rfl
  | succ width ih => simp [bigEndian, ih]

structure TrainRecord where
  sent : UInt64
  iteration : UInt16
  sequence : UInt16
  deriving DecidableEq, Repr

namespace TrainRecord

def headerLength : Nat := 12

def header (record : TrainRecord) : Datagram :=
  bigEndian record.sent.toNat 8 ++ bigEndian record.iteration.toNat 2 ++
    bigEndian record.sequence.toNat 2

/-- A datagram of `size` bytes, or of the header alone if that is longer. -/
def encode (record : TrainRecord) (size : Nat) : Datagram :=
  record.header ++ List.replicate (size - headerLength) 0

def decode (datagram : Datagram) : Except MeasureError TrainRecord :=
  if datagram.length < headerLength then
    .error (.shortRecord datagram.length)
  else
    .ok { sent := UInt64.ofNat (ofBigEndian (datagram.take 8))
          iteration := UInt16.ofNat (ofBigEndian ((datagram.drop 8).take 2))
          sequence := UInt16.ofNat (ofBigEndian ((datagram.drop 10).take 2)) }

@[simp]
theorem length_header (record : TrainRecord) : record.header.length = headerLength := by
  simp [header, headerLength]

end TrainRecord

end Throughput
