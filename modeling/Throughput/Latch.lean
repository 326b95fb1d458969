/-!
# Latches

A count-down latch over a fixed number of success or failure reports. It fires once, on the report
that completes the count, and ignores every later one.
-/

namespace Throughput

structure Tally where
  succeeded : Nat
  failed : Nat
  deriving DecidableEq, Repr

def Tally.noneSucceeded (tally : Tally) : Bool :=
  tally.succeeded = 0

structure Latch where
  expected : Nat
  succeeded : Nat := 0
  failed : Nat := 0
  fired : Bool := false
  deriving DecidableEq, Repr

namespace Latch

def ofExpected (expected : Nat) : Latch :=
  { expected }

def tally (latch : Latch) : Tally :=
  ⟨latch.succeeded, latch.failed⟩

def count (latch : Latch) (success : Bool) : Latch :=
  if success then { latch with succeeded := latch.succeeded + 1 }
  else { latch with failed := latch.failed + 1 }

@[simp]
theorem expected_count (latch : Latch) (success : Bool) :
    (latch.count success).expected = latch.expected := by
  cases success <;> rfl

@[simp]
theorem fired_count (latch : Latch) (success : Bool) :
    (latch.count success).fired = latch.fired := by
  cases success <;> rfl

theorem succeeded_add_failed_count (latch : Latch) (success : Bool) :
    (latch.count success).succeeded + (latch.count success).failed =
      latch.succeeded + latch.failed + 1 := by
  cases success with
  | false => rfl
  | true => exact Nat.add_right_comm _ _ _

def record (latch : Latch) (success : Bool) : Latch × Option Tally :=
  if latch.fired then
    (latch, none)
  else
    let counted := latch.count success
    if counted.succeeded + counted.failed = counted.expected then
      ({ counted with fired := true }, some counted.tally)
    else
      (counted, none)

/-- Reports `n` failures and drops what they fire. -/
def recordFailures (latch : Latch) : Nat → Latch
  | 0 => latch
  | n + 1 => (latch.record false).1.recordFailures n

theorem record_of_fired {latch : Latch} (h : latch.fired = true) (success : Bool) :
    latch.record success = (latch, none) := by
  simp [record, h]

end Latch

end Throughput
