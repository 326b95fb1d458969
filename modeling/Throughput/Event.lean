import Throughput.Error
import Throughput.Result

/-!
# Events

What a measurement tells its observer while it runs. A status is announced only when it changes, and
the last event carries the outcome.
-/

namespace Throughput

inductive Status where
  | unknown
  | running
  | finished
  | error
  deriving DecidableEq, Repr, Inhabited

namespace Status

def initial : Status := .unknown

def text : Status → String
  | .unknown => "Unknown"
  | .running => "Running"
  | .finished => "Finished"
  | .error => "Error"

end Status

inductive Event where
  | statusChanged (status : Status)
  | started
  | finished (result : MeasurementResult)
  | error (message : String)

def Event.isTerminal : Event → Bool
  | .finished _ | .error _ => true
  | _ => false

/-- The current status and all that was announced so far. Nothing is kept when nobody listens. -/
structure Journal where
  observed : Bool
  status : Status
  events : List Event

namespace Journal

def ofObserved (observed : Bool) : Journal :=
  ⟨observed, .initial, []⟩

def emit (journal : Journal) (event : Event) : Journal :=
  if journal.observed then { journal with events := journal.events ++ [event] } else journal

def setStatus (journal : Journal) (status : Status) : Journal :=
  if journal.status = status then journal
  else { journal with status }.emit (.statusChanged status)

def start (journal : Journal) : Journal :=
  (journal.setStatus .running).emit .started

def close (journal : Journal) : Except MeasureError MeasurementResult → Journal
  | .ok result => (journal.setStatus .finished).emit (.finished result)
  | .error e => (journal.setStatus .error).emit (.error e.message)

end Journal

end Throughput
