import Throughput.Budget
import Throughput.Event

/-!
# Runs

What a run starts under and what it leaves behind. A budget that is used up refuses the run before
anything is announced but the error. Times are nanoseconds since the start.
-/

namespace Throughput

inductive Cancellation where
  | never
  | beforeStart
  | after (time : Nat)
  deriving DecidableEq, Repr

/-- What a run starts under: the budget that it charges, when it is cancelled, and whether somebody
listens to its events. -/
structure Conditions where
  budget : Budget
  cancellation : Cancellation
  observed : Bool
  deriving DecidableEq, Repr

structure Run (α : Type) where
  outcome : Except MeasureError α
  elapsed : Nat
  budget : Budget
  journal : Journal

namespace Run

variable {α : Type}

/-- A run that ends with its outcome, which is announced. -/
def close (wrap : α → MeasurementResult) (outcome : Except MeasureError α) (elapsed : Nat)
    (budget : Budget) (journal : Journal) : Run α :=
  { outcome, elapsed, budget
    journal := journal.close (outcome.map wrap) }

/-- The run that a used-up budget refuses. -/
def refused (wrap : α → MeasurementResult) (conditions : Conditions) : Run α :=
  close wrap (.error (.budgetExhausted conditions.budget.remaining)) 0 conditions.budget
    (.ofObserved conditions.observed)

end Run

end Throughput
