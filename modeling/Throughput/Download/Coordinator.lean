import Throughput.Definition
import Throughput.Tracker

/-!
# Coordinators

The bookkeeping that drives the workers of one download. The measurement window opens a grace period
after the last first-byte outcome; until then there is nothing to end the run but an error.
-/

namespace Throughput

/-- A span of time in nanoseconds since the start of the run. -/
structure Window where
  start : Nat
  stop : Nat
  deriving DecidableEq, Repr

def Window.ofDefinition (definition : DownloadDefinition) (now : Nat) : Window :=
  let start := now + Span.ofMillis definition.rampUp.toNat
  ⟨start, start + Span.ofMillis definition.targetTime.toNat⟩

inductive Decision where
  | proceed
  | begin (workers : List Nat)
  /-- The run is over, with the start of its window or with an error. -/
  | conclude (outcome : Except MeasureError Nat)

structure Coordinator where
  tracker : Tracker
  window : Option Window
  deriving DecidableEq, Repr

namespace Coordinator

def ofWorkers (workers : Nat) : Coordinator :=
  ⟨.ofWorkers workers, none⟩

/-- A run without a window had nothing to measure. -/
def windowStart (coordinator : Coordinator) : Except MeasureError Nat :=
  match coordinator.window with
  | some window => .ok window.start
  | none => .error .transfer

def onEvent (coordinator : Coordinator) (definition : DownloadDefinition) (now : Nat)
    (event : WorkerEvent) : Coordinator × Decision :=
  match coordinator.tracker.onEvent event with
  | (tracker, .error e) => ({ coordinator with tracker }, .conclude (.error e))
  | (tracker, .ok .wait) => ({ coordinator with tracker }, .proceed)
  | (tracker, .ok (.beginTransfer workers)) => ({ coordinator with tracker }, .begin workers)
  | (tracker, .ok .openWindow) =>
    let window := Window.ofDefinition definition now
    (⟨tracker, some window⟩,
      if tracker.allDisconnected then .conclude (.ok window.start) else .proceed)
  | (tracker, .ok .finalize) => ({ coordinator with tracker }, .conclude coordinator.windowStart)

/-- The window has lasted its time. -/
def expired? (coordinator : Coordinator) (now : Nat) : Option Window :=
  match coordinator.window with
  | some window => if window.stop ≤ now then some window else none
  | none => none

end Coordinator

end Throughput
