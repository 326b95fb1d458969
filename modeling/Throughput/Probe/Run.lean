import Throughput.Definition
import Throughput.Probe.Basic
import Throughput.Run

/-!
# Probe runs

A whole run of the receiving side. A probe that hears nothing ends with a result that is empty.
-/

namespace Throughput

structure ProbeRun extends Run TrainsResult where
  states : List ProbeState
  polled : List ProbeState

namespace ProbeRun

def finalState (run : ProbeRun) : ProbeState :=
  run.states.getLastD .initial

end ProbeRun

namespace Probe

def cancelTime : Cancellation → Option Nat
  | .never => none
  | .beforeStart => some 0
  | .after time => some time

def conclude (packetSize : Nat) (listening : Listening) : Except MeasureError TrainsResult :=
  match listening.ending with
  | .cancelled => .error .cancelled
  | .failed cause => .error (.socket cause)
  | .inactive | .quiet => .ok (.ofRates (listening.probe.buckets.rates packetSize))

/-- A probe that was filled, if only with packets of unknown trains, goes on to evaluate them. -/
def evaluates (listening : Listening) : Bool :=
  match listening.ending with
  | .quiet => true
  | .inactive => listening.probe.buckets.received ≠ 0
  | .cancelled | .failed _ => false

/-- Only a run that ends with a result charges its traffic. -/
def charge (budget : Budget) (listening : Listening) : Budget :=
  match listening.ending with
  | .cancelled | .failed _ => budget
  | .inactive | .quiet => (budget.charge listening.probe.bytes).1

def statesOf (listening : Listening) : List ProbeState :=
  let probe := if evaluates listening then listening.probe.enter .evaluating else listening.probe
  (probe.enter .finished).states

def run (definition : TrainsDefinition) (timers : ProbeTimers) (conditions : Conditions)
    (deliveries : List Delivery) : ProbeRun :=
  if conditions.budget.exhausted then
    { Run.refused .trains conditions with
      states := ((ofIterations definition.iterations timers).enter .finished).states
      polled := [] }
  else
    let probe := ofIterations definition.iterations timers
    let listening := listen timers (cancelTime conditions.cancellation) probe 0 deliveries
    let outcome := conclude definition.packetSize.toNat listening
    { Run.close .trains outcome listening.time (charge conditions.budget listening)
        (Journal.ofObserved conditions.observed).start with
      states := statesOf listening
      polled := listening.polled }

end Probe

end Throughput
