import Throughput.Target

/-!
# Definitions

What a measurement is asked to do, and the bounds it has to keep. The first broken bound decides;
the URL is read last.
-/

namespace Throughput

/-- A download over several parallel connections. Times are in milliseconds: a grace period once
every worker has its first byte, the length of the measurement window, and the nominal length of one
time slot. -/
structure DownloadDefinition where
  url : String
  threads : UInt32
  rampUp : UInt64
  targetTime : UInt64
  slotLength : UInt64
  avoidCaches : Bool
  deriving DecidableEq, Repr

namespace DownloadDefinition

def initial : DownloadDefinition :=
  { url := ""
    threads := 4
    rampUp := 2000
    targetTime := 10000
    slotLength := 500
    avoidCaches := false }

def validate (definition : DownloadDefinition) : Except Refusal Target :=
  if definition.threads < 1 ∨ 16 < definition.threads then
    .error (.threads definition.threads.toNat)
  else if 10000 < definition.rampUp then
    .error (.rampUp definition.rampUp.toNat)
  else if definition.targetTime < 1000 ∨ 60000 < definition.targetTime then
    .error (.targetTime definition.targetTime.toNat)
  else if definition.slotLength < 100 ∨ definition.targetTime < definition.slotLength then
    .error (.slotLength definition.slotLength.toNat definition.targetTime.toNat)
  else
    match Target.parse definition.url with
    | .ok target => .ok target
    | .error fault => .error (.url fault)

end DownloadDefinition

/-- A run of packet trains. The receiving side reads the number of trains and the packet size; the
other two fields, the last one in milliseconds, drive the sending side. -/
structure TrainsDefinition where
  iterations : UInt16
  trainLength : UInt16
  packetSize : UInt64
  trainGap : UInt64
  deriving DecidableEq, Repr

namespace TrainsDefinition

def initial : TrainsDefinition :=
  { iterations := 10
    trainLength := 48
    packetSize := 1000
    trainGap := 100 }

/-- A definition that keeps every bound, or the first one broken. -/
def validate (definition : TrainsDefinition) : Except Refusal TrainsDefinition :=
  if definition.iterations < 1 ∨ 1000 < definition.iterations then
    .error (.iterations definition.iterations.toNat)
  else if definition.trainLength < 2 ∨ 10000 < definition.trainLength then
    .error (.trainLength definition.trainLength.toNat)
  else if definition.packetSize < 12 ∨ 65507 < definition.packetSize then
    .error (.packetSize definition.packetSize.toNat)
  else
    .ok definition

end TrainsDefinition

end Throughput
