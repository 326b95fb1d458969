import Throughput.Probe.Run
import Throughput.Proofs.Probe.Filing

/-!
# What a probe has heard

A probe that receives is determined by the datagrams that it has heard so far: they fix both timers,
the epoch of the stamps, the traffic and the buckets. Errors that say that the peer is not there yet
leave no trace.
-/

namespace Throughput

/-- What reaches a socket, and when. -/
structure Receipt where
  time : Nat
  reception : Reception
  deriving DecidableEq, Repr

structure Heard where
  time : Nat
  datagram : Datagram
  deriving DecidableEq, Repr

namespace Receipt

/-- A delivery comes its delay after the call for it, which is made once the one before has come. -/
def ofDeliveries (now : Nat) : List Delivery → List Receipt
  | [] => []
  | delivery :: rest =>
    ⟨now + delivery.delay, delivery.reception⟩ :: ofDeliveries (now + delivery.delay) rest

def heard? (receipt : Receipt) : Option Heard :=
  match receipt.reception with
  | .datagram datagram => some ⟨receipt.time, datagram⟩
  | .failure _ _ => none

/-- The cause of an error that ends the run. -/
def fatal? (receipt : Receipt) : Option String :=
  match receipt.reception with
  | .datagram _ => none
  | .failure fault cause => if fault.isUnreachable then none else some cause

end Receipt

namespace Heard

def ofReceipts (receipts : List Receipt) : List Heard :=
  receipts.filterMap Receipt.heard?

theorem ofReceipts_cons (receipt : Receipt) (receipts : List Receipt) :
    ofReceipts (receipt :: receipts) = receipt.heard?.toList ++ ofReceipts receipts := by
  cases hreceipt : receipt.heard? <;> simp [ofReceipts, hreceipt]

def stamped? (epoch : Nat) (heard : Heard) : Option StampedRecord :=
  match TrainRecord.decode heard.datagram with
  | .ok record => some ⟨record, Numeric.clampWord64 (heard.time - epoch)⟩
  | .error _ => none

/-- The records that were heard. The first datagram sets the epoch, also if it holds no record. -/
def records : List Heard → List StampedRecord
  | [] => []
  | first :: rest => (first :: rest).filterMap (stamped? first.time)

def traffic (heard : List Heard) : Nat :=
  (heard.map fun heard => heard.datagram.length).sum

theorem records_concat (heard : List Heard) (last : Heard) :
    records (heard ++ [last]) =
      records heard ++ (stamped? ((heard.head?.map Heard.time).getD last.time) last).toList := by
  cases heard with
  | nil => cases hstamp : stamped? last.time last <;> simp [records, hstamp]
  | cons first rest =>
    change ((first :: rest) ++ [last]).filterMap (stamped? first.time) = _
    rw [List.filterMap_append]
    cases hstamp : stamped? first.time last <;> simp [records, hstamp]

end Heard

namespace ProbeTimers

/-- The time at which a probe that hears nothing more gives up or evaluates. -/
def limit (timers : ProbeTimers) (heard : List Heard) : Nat :=
  match heard.getLast? with
  | none => timers.inactivity
  | some last => last.time + timers.quiet

end ProbeTimers

namespace Probe

variable (iterations : UInt16) (timers : ProbeTimers)

/-- The probe that has heard these datagrams. -/
def ofHeard (heard : List Heard) : Probe :=
  { states := if heard.isEmpty then [.idle] else [.idle, .receiving]
    buckets := (Buckets.ofIterations iterations).insertAll (Heard.records heard)
    epoch := heard.head?.map Heard.time
    bytes := Heard.traffic heard
    inactiveAt := ((heard.getLast?.map Heard.time).getD 0) + timers.inactivity
    quietAt := heard.getLast?.map fun last => last.time + timers.quiet }

theorem ofHeard_nil : ofHeard iterations timers [] = ofIterations iterations timers := by
  simp [ofHeard, ofIterations, Heard.records, Heard.traffic, Buckets.insertAll]

theorem file_insertAll (buckets : Buckets) (records : List StampedRecord) (epoch : Nat)
    (last : Heard) :
    file (buckets.insertAll records) last.datagram (last.time - epoch) =
      buckets.insertAll (records ++ (Heard.stamped? epoch last).toList) := by
  unfold file Heard.stamped?
  cases TrainRecord.decode last.datagram with
  | ok record => simp [Buckets.insertAll]
  | error e => simp

theorem states_awaken_ofHeard (heard : List Heard) :
    (ofHeard iterations timers heard).awaken.states = [.idle, .receiving] := by
  cases heard <;> rfl

theorem receive_ofHeard (heard : List Heard) (last : Heard) :
    (ofHeard iterations timers heard).receive timers last.time last.datagram =
      ofHeard iterations timers (heard ++ [last]) := by
  have hepoch : (heard.head?.map Heard.time).getD last.time =
      ((heard ++ [last]).head?.map Heard.time).getD 0 := by
    cases heard <;> rfl
  have hsome : some ((heard.head?.map Heard.time).getD last.time) =
      (heard ++ [last]).head?.map Heard.time := by
    cases heard <;> rfl
  rw [receive, states_awaken_ofHeard]
  simp only [ofHeard, file_insertAll, Heard.records_concat, hsome]
  simp [Heard.traffic]

/-- A probe that has heard something waits for the quiet period, which is the shorter one. -/
theorem timer_ofHeard (heard : List Heard) :
    (ofHeard iterations timers heard).timer =
      (timers.limit heard, if heard = [] then .inactive else .quiet) := by
  cases hlast : heard.getLast? with
  | none =>
    have hnil : heard = [] := List.getLast?_eq_none_iff.mp hlast
    simp [timer, ofHeard, ProbeTimers.limit, hnil]
  | some last =>
    have hne : heard ≠ [] := by
      rintro rfl
      simp at hlast
    have hquiet := timers.quiet_lt_inactivity
    simp [timer, ofHeard, ProbeTimers.limit, hlast, hne, hquiet]

end Probe

end Throughput
