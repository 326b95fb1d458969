import Throughput.Sample
import Throughput.Worker.State

/-!
# Trust

A finished run is accepted as a whole or not at all: some worker has to succeed, and every worker
that did has to cover three quarters of the target time, counted from the start of the window.
-/

namespace Throughput

/-- What the check needs to know of one worker: when it sent its request, and how long after that
its last sample came, in nanoseconds. -/
structure Coverage where
  state : WorkerState
  started : Int
  runTime : Int
  deriving DecidableEq, Repr

namespace Coverage

def covered (worker : Coverage) (windowStart : Int) : Int :=
  worker.runTime - (windowStart - worker.started)

def required (targetMillis : Nat) : Float :=
  Float.ofNat targetMillis * 1000000.0 * 0.75

def isSuccess (worker : Coverage) : Bool :=
  worker.state = .succeeded

def isLongEnough (worker : Coverage) (windowStart : Int) (targetMillis : Nat) : Bool :=
  !(Float.ofInt (worker.covered windowStart) < required targetMillis)

/-- Goes on to the first successful worker that is too short. Workers in other states are passed
over, and at the end one that succeeded must have been among them. -/
def judge (windowStart : Int) (targetMillis successful : Nat) : List Coverage → Bool
  | [] => 0 < successful
  | worker :: rest =>
    if !worker.isSuccess then judge windowStart targetMillis successful rest
    else if worker.isLongEnough windowStart targetMillis then
      judge windowStart targetMillis (successful + 1) rest
    else false

end Coverage

def trustable (workers : List Coverage) (windowStart : Int) (targetMillis : Nat) : Bool :=
  Coverage.judge windowStart targetMillis 0 workers

theorem Coverage.judge_eq (windowStart : Int) (targetMillis successful : Nat)
    (workers : List Coverage) :
    judge windowStart targetMillis successful workers =
      ((decide (0 < successful) || !(workers.filter isSuccess).isEmpty) &&
        (workers.filter isSuccess).all fun worker =>
          worker.isLongEnough windowStart targetMillis) := by
  induction workers generalizing successful with
  | nil => simp [judge]
  | cons worker rest ih =>
    rw [judge]
    cases hsuccess : worker.isSuccess with
    | false =>
      rw [List.filter_cons_of_neg (by simp [hsuccess]), ← ih]
      rfl
    | true =>
      rw [List.filter_cons_of_pos hsuccess, List.all_cons]
      cases worker.isLongEnough windowStart targetMillis with
      | false => simp
      | true => simpa using ih (successful + 1)

/-- The workers that succeeded decide: there are some, and each of them is long enough. -/
theorem trustable_eq (workers : List Coverage) (windowStart : Int) (targetMillis : Nat) :
    trustable workers windowStart targetMillis =
      (!(workers.filter Coverage.isSuccess).isEmpty &&
        (workers.filter Coverage.isSuccess).all fun worker =>
          worker.isLongEnough windowStart targetMillis) :=
  Coverage.judge_eq windowStart targetMillis 0 workers

end Throughput
