import Throughput.Sample
import Throughput.Trust
import Throughput.Worker.State

/-!
# Workers

One connection that downloads for as long as it is allowed to and records a sample for every read.
A failed worker and one that the server has closed no longer hold their stream.
-/

namespace Throughput

structure Worker where
  id : Nat
  state : WorkerState
  holdsStream : Bool
  /-- When the request was written, in nanoseconds since the start of the run. -/
  started : Option Nat
  firstByte : Option Nat
  samples : List Sample
  deriving DecidableEq, Repr

/-- What a read brings. An empty read is the end of the stream. -/
inductive Reading where
  | bytes (count : Nat)
  | broken
  | timeout
  deriving DecidableEq, Repr

namespace Worker

/-- The most bytes that one read takes. -/
def bufferSize : Nat := 65536

/-- What one read after the other takes of bytes that come together: full buffers, and then what is
left. -/
def portions (bytes : Nat) : List Nat :=
  let left := bytes % bufferSize
  List.replicate (bytes / bufferSize) bufferSize ++ if left = 0 then [] else [left]

def ofId (id : Nat) : Worker :=
  { id
    state := .initial
    holdsStream := false
    started := none
    firstByte := none
    samples := [] }

def fail (worker : Worker) : Worker :=
  { worker with state := .failed, holdsStream := false }

def beginConnect (worker : Worker) : Worker :=
  { worker with state := .connecting }

def finishConnect (worker : Worker) (accepted : Bool) : Worker :=
  if accepted then { worker with state := .connected, holdsStream := true } else worker.fail

/-- The request is out, and the clock of the samples starts. -/
def await (worker : Worker) (now : Nat) : Worker :=
  { worker with state := .awaitingFirstByte, started := some now }

def elapsed (worker : Worker) (now : Nat) : Nat :=
  now - worker.started.getD 0

def record (worker : Worker) (now count : Nat) : Worker :=
  { worker with samples := worker.samples ++ [⟨worker.elapsed now, count⟩] }

/-- The first read decides whether the worker downloads at all. -/
def readFirst (worker : Worker) (now : Nat) : Reading → Worker
  | .bytes (count + 1) =>
    { worker.record now (count + 1) with
      state := .downloading
      firstByte := some (worker.elapsed now) }
  | .bytes 0 | .broken | .timeout => worker.fail

def finish (worker : Worker) : Worker :=
  { worker with state := .succeeded, holdsStream := false }

def readNext (worker : Worker) (now : Nat) : Reading → Worker
  | .bytes (count + 1) => worker.record now (count + 1)
  | .bytes 0 | .broken => worker.finish
  | .timeout => worker

/-- Closes the stream. A download in progress counts as finished. -/
def stop (worker : Worker) : Worker :=
  { worker with
    state := if worker.state = .downloading then .succeeded else worker.state
    holdsStream := false }

def coverage (worker : Worker) : Coverage :=
  { state := worker.state
    started := worker.started.getD 0
    runTime := match worker.samples.getLast? with
      | some sample => sample.elapsed
      | none => 0 }

@[simp]
theorem samples_stop (worker : Worker) : worker.stop.samples = worker.samples := rfl

end Worker

end Throughput
