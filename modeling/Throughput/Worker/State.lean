/-!
# Worker states
-/

namespace Throughput

inductive WorkerState where
  | inactive
  | connecting
  | connected
  | awaitingFirstByte
  | downloading
  | succeeded
  | failed
  deriving DecidableEq, Repr, Inhabited

namespace WorkerState

def initial : WorkerState := .inactive

def isFinished : WorkerState → Bool
  | .succeeded | .failed => true
  | _ => false

def text : WorkerState → String
  | .inactive => "inactive"
  | .connecting => "connecting"
  | .connected => "connected"
  | .awaitingFirstByte => "awaiting first byte"
  | .downloading => "downloading"
  | .succeeded => "finished"
  | .failed => "failed"

end WorkerState

end Throughput
