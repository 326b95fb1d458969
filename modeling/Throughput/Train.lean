import Throughput.Numeric.Word
import Throughput.Record
import Throughput.Result

/-!
# Packet trains

Arriving records are filed by train. The rate of a train comes from its first and its last packet in
arrival order; packets that were overtaken are counted but still take part.
-/

namespace Throughput

/-- A train packet as the receiver saw it, with its place in the arrival order of all trains. -/
structure Arrival where
  sequence : UInt16
  sent : UInt64
  received : UInt64
  order : UInt32
  deriving DecidableEq, Repr

structure OutOfRange where
  iteration : UInt16
  iterations : UInt16
  deriving DecidableEq, Repr

structure Buckets where
  trains : List (List Arrival)
  received : UInt32
  deriving DecidableEq, Repr

namespace Buckets

def ofIterations (iterations : UInt16) : Buckets :=
  ⟨List.replicate iterations.toNat [], 0⟩

def append (trains : List (List Arrival)) (index : Nat) (arrival : Arrival) : List (List Arrival) :=
  trains.modify index fun train => train ++ [arrival]

/-- Stamps a record and files it. The stamp advances for every record, also for one that is then
rejected. -/
def insert (buckets : Buckets) (record : TrainRecord) (received : UInt64) :
    Buckets × Except OutOfRange UInt32 :=
  let order := buckets.received
  let index := record.iteration.toNat
  if index < buckets.trains.length then
    let arrival : Arrival := ⟨record.sequence, record.sent, received, order⟩
    (⟨append buckets.trains index arrival, order + 1⟩, .ok order)
  else
    (⟨buckets.trains, order + 1⟩,
      .error ⟨record.iteration, UInt16.ofNat buckets.trains.length⟩)

@[simp]
theorem received_insert (buckets : Buckets) (record : TrainRecord) (received : UInt64) :
    (buckets.insert record received).1.received = buckets.received + 1 := by
  simp only [insert]
  split <;> rfl

@[simp]
theorem length_trains_insert (buckets : Buckets) (record : TrainRecord) (received : UInt64) :
    (buckets.insert record received).1.trains.length = buckets.trains.length := by
  simp only [insert]
  split <;> simp [append]

end Buckets

inductive TrainRate where
  | empty
  | infinite
  | rate (sending receiving : Float) (reordered : Nat)

namespace TrainRate

/-- Kilobits per second of `bytes` over a span in nanoseconds. -/
def kilobits (bytes span : Float) : Float :=
  bytes / (span / 1000000000.0) * 8.0 / 1000.0

/-- The bytes of some packets of one size, in a machine word. A product that does not fit into the
word wraps around. -/
def volume (packetSize count : Nat) : UInt64 :=
  UInt64.ofNat packetSize * UInt64.ofNat count

def Fits (packetSize count : Nat) : Prop :=
  packetSize * count ≤ Numeric.maxWord64

instance (packetSize count : Nat) : Decidable (Fits packetSize count) :=
  inferInstanceAs (Decidable (_ ≤ _))

theorem toNat_volume_of_fits {packetSize count : Nat} (h : Fits packetSize count) :
    (volume packetSize count).toNat = packetSize * count := by
  rw [volume, ← UInt64.ofNat_mul, UInt64.toNat_ofNat_of_lt' (Nat.lt_succ_of_le h)]

/-- The packets below the highest sequence seen before them. -/
def countReordered : (highest : UInt16) → List Arrival → Nat
  | _, [] => 0
  | highest, packet :: rest =>
    if packet.sequence < highest then countReordered highest rest + 1
    else countReordered packet.sequence rest

/-- A span that is not positive would make the rate infinite. -/
def ofTrain (train : List Arrival) (packetSize : Nat) : TrainRate :=
  match train with
  | [] => .empty
  | first :: rest =>
    let last := rest.getLastD first
    let sending : Int := last.sent.toNat - first.sent.toNat
    let receiving : Int := last.received.toNat - first.received.toNat
    if sending ≤ 0 ∨ receiving ≤ 0 then
      .infinite
    else
      let bytes := Float.ofNat (volume packetSize train.length).toNat
      .rate (kilobits bytes (Float.ofInt sending)) (kilobits bytes (Float.ofInt receiving))
        (countReordered first.sequence rest)

/-- The rate by checked arithmetic, which gives up on a product that does not fit into its word. -/
def checked? (train : List Arrival) (packetSize : Nat) : Option TrainRate :=
  match ofTrain train packetSize with
  | .rate sending receiving reordered =>
    if Fits packetSize train.length then some (.rate sending receiving reordered) else none
  | unusable => some unusable

def rates? : TrainRate → Option (Float × Float)
  | .rate sending receiving _ => some (sending, receiving)
  | _ => none

end TrainRate

/-- The rates of the usable trains, in train order. -/
def TrainsResult.ofRates (rates : List TrainRate) : TrainsResult :=
  let usable := rates.filterMap TrainRate.rates?
  ⟨usable.map Prod.fst, usable.map Prod.snd⟩

def Buckets.rates (buckets : Buckets) (packetSize : Nat) : List TrainRate :=
  buckets.trains.map fun train => .ofTrain train packetSize

/-- The rates by checked arithmetic. One train that it gives up on is enough for there to be no
rates at all. -/
def Buckets.checkedRates? (buckets : Buckets) (packetSize : Nat) : Option (List TrainRate) :=
  buckets.trains.mapM fun train => TrainRate.checked? train packetSize

end Throughput
