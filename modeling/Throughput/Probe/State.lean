/-!
# Probe states
-/

namespace Throughput

inductive ProbeState where
  | idle
  | receiving
  | evaluating
  | finished
  deriving DecidableEq, Repr, Inhabited

namespace ProbeState

def initial : ProbeState := .idle

def text : ProbeState → String
  | .idle => "idle"
  | .receiving => "receiving"
  | .evaluating => "evaluating"
  | .finished => "finished"

end ProbeState

end Throughput
