import Throughput.Error
import Throughput.Latch

/-!
# Run tracker

The counters of one download run. Two latches in a row decide when the transfer may begin and when
the measurement window opens; each of them fires at most once.
-/

namespace Throughput

inductive WorkerEvent where
  | connected (worker : Nat) (ok : Bool)
  | firstByte (worker : Nat) (ok : Bool)
  | disconnected (worker : Nat)
  deriving DecidableEq, Repr

inductive Step where
  | wait
  | beginTransfer (workers : List Nat)
  | openWindow
  | finalize
  deriving DecidableEq, Repr

structure Tracker where
  handshakes : Latch
  transfers : Latch
  connected : List Bool
  disconnected : Nat
  deriving DecidableEq, Repr

namespace Tracker

def ofWorkers (workers : Nat) : Tracker :=
  { handshakes := .ofExpected workers
    transfers := .ofExpected workers
    connected := List.replicate workers false
    disconnected := 0 }

def downloading (tracker : Tracker) : Nat :=
  tracker.transfers.succeeded

def windowOpen (tracker : Tracker) : Bool :=
  tracker.transfers.fired

/-- The window is open and every downloading worker was closed by the server. -/
def allDisconnected (tracker : Tracker) : Bool :=
  tracker.windowOpen && tracker.downloading ≤ tracker.disconnected

def ready (tracker : Tracker) : List Nat :=
  (tracker.connected.zipIdx.filter fun entry => entry.1).map fun entry => entry.2

def noteConnected (tracker : Tracker) (worker : Nat) (ok : Bool) : Tracker :=
  if ok then { tracker with connected := tracker.connected.set worker true } else tracker

/-- The handshake that completes the count begins the transfer. Workers that did not connect never
start one, so they count as not downloading right away. -/
def onConnected (tracker : Tracker) (worker : Nat) (ok : Bool) :
    Tracker × Except MeasureError Step :=
  let noted := tracker.noteConnected worker ok
  match noted.handshakes.record ok with
  | (handshakes, none) => ({ noted with handshakes }, .ok .wait)
  | (handshakes, some tally) =>
    let counted := { noted with handshakes }
    if tally.noneSucceeded then
      (counted, .error .connection)
    else
      ({ counted with transfers := counted.transfers.recordFailures tally.failed },
        .ok (.beginTransfer counted.ready))

def onFirstByte (tracker : Tracker) (ok : Bool) : Tracker × Except MeasureError Step :=
  match tracker.transfers.record ok with
  | (transfers, none) => ({ tracker with transfers }, .ok .wait)
  | (transfers, some tally) =>
    let counted := { tracker with transfers }
    if tally.noneSucceeded then (counted, .error .transfer) else (counted, .ok .openWindow)

def onDisconnected (tracker : Tracker) : Tracker × Except MeasureError Step :=
  let counted := { tracker with disconnected := tracker.disconnected + 1 }
  (counted, .ok (if counted.allDisconnected then .finalize else .wait))

def onEvent (tracker : Tracker) : WorkerEvent → Tracker × Except MeasureError Step
  | .connected worker ok => tracker.onConnected worker ok
  | .firstByte _ ok => tracker.onFirstByte ok
  | .disconnected _ => tracker.onDisconnected

end Tracker

end Throughput
