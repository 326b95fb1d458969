import Throughput.Definition
import Throughput.Numeric.Word
import Throughput.Record
import Throughput.Run

/-!
# Senders

The sending side of a packet-train run. Every train is sent back to back and followed by the gap;
sending itself takes no time, so a train starts after a whole number of gaps. A time that is too
late for a record is written as the last one that it can hold.
-/

namespace Throughput

structure Departure where
  time : Nat
  datagram : Datagram
  deriving DecidableEq, Repr

namespace TrainsDefinition

def trainTime (definition : TrainsDefinition) (iteration : Nat) : Nat :=
  iteration * (definition.trainGap.toNat * nanosPerMilli)

def departure (definition : TrainsDefinition) (iteration sequence : Nat) : Departure :=
  let time := definition.trainTime iteration
  let record : TrainRecord :=
    ⟨Numeric.clampWord64 time, UInt16.ofNat iteration, UInt16.ofNat sequence⟩
  ⟨time, record.encode definition.packetSize.toNat⟩

def train (definition : TrainsDefinition) (iteration : Nat) : List Departure :=
  (List.range definition.trainLength.toNat).map (definition.departure iteration)

def departures (definition : TrainsDefinition) : List Departure :=
  (List.range definition.iterations.toNat).flatMap definition.train

end TrainsDefinition

/-- What becomes of one call of send. A datagram is lost when an earlier one was found unwelcome. -/
inductive Dispatch where
  | sent
  | lost
  | failed (cause : String)
  deriving DecidableEq, Repr

/-- How a connected socket answers each call of send, counted from zero. -/
abbrev Outlet := Nat → Dispatch

namespace Outlet

def listening : Outlet := fun _ => .sent

/-- Nobody is there. Every send is answered by a rejection, which the next one reports. -/
def rejecting : Outlet := fun call => if call % 2 = 0 then .sent else .lost

/-- The socket was never told where to send to. -/
def unconnected : Outlet := fun _ => .failed "Destination address required (os error 89)"

end Outlet

structure SendReport where
  packets : Nat
  bytes : Nat
  deriving DecidableEq, Repr

def SendReport.add (report : SendReport) (datagram : Datagram) : SendReport :=
  ⟨report.packets + 1, report.bytes + datagram.length⟩

structure SendRun where
  outcome : Except MeasureError SendReport
  elapsed : Nat
  sent : List Departure

namespace Sender

structure Progress where
  calls : Nat
  report : SendReport
  sent : List Departure
  deriving DecidableEq, Repr

def Progress.initial : Progress :=
  ⟨0, ⟨0, 0⟩, []⟩

/-- Sends one train, up to the first error that is not a loss. -/
def sendTrain (outlet : Outlet) : Progress → List Departure → Progress × Except MeasureError Unit
  | progress, [] => (progress, .ok ())
  | progress, departure :: rest =>
    match outlet progress.calls with
    | .sent =>
      sendTrain outlet
        { calls := progress.calls + 1
          report := progress.report.add departure.datagram
          sent := progress.sent ++ [departure] } rest
    | .lost => sendTrain outlet { progress with calls := progress.calls + 1 } rest
    | .failed cause => (progress, .error (.socket cause))

/-- When a sender that is about to start a train at `time` was told to stop, if it was. A sender
that has begun notices this only between two trains. -/
def stopTime? (cancellation : Cancellation) (iteration time : Nat) : Option Nat :=
  match cancellation with
  | .never => none
  | .beforeStart => some 0
  | .after cancel => if iteration ≠ 0 ∧ cancel ≤ time then some cancel else none

def sendTrains (definition : TrainsDefinition) (cancellation : Cancellation) (outlet : Outlet) :
    (time : Nat) → Progress → List Nat → SendRun
  | time, progress, [] => ⟨.ok progress.report, time, progress.sent⟩
  | _, progress, iteration :: rest =>
    let time := definition.trainTime iteration
    match stopTime? cancellation iteration time with
    | some cancel => ⟨.error .cancelled, cancel, progress.sent⟩
    | none =>
      match sendTrain outlet progress (definition.train iteration) with
      | (progress, .ok ()) => sendTrains definition cancellation outlet time progress rest
      | (progress, .error e) => ⟨.error e, time, progress.sent⟩

def run (definition : TrainsDefinition) (cancellation : Cancellation) (outlet : Outlet) : SendRun :=
  sendTrains definition cancellation outlet 0 .initial (List.range definition.iterations.toNat)

end Sender

end Throughput
