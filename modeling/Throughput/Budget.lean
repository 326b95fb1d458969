import Throughput.Numeric.Word

/-!
# Traffic budgets

An allowance of bytes that measurements charge their traffic to. A charge that does not fit leaves
the allowance as it was, and an active allowance then refuses it.
-/

namespace Throughput

structure Allowance where
  available : Nat
  used : Nat
  active : Bool
  deriving DecidableEq, Repr

namespace Allowance

def initial : Allowance :=
  ⟨0, 0, false⟩

def ofAvailable (available : Nat) : Allowance :=
  ⟨available, 0, true⟩

def withUsed (allowance : Allowance) (used : Nat) : Allowance :=
  { allowance with used }

def withActive (allowance : Allowance) (active : Bool) : Allowance :=
  { allowance with active }

def reset (allowance : Allowance) : Allowance :=
  allowance.withUsed 0

def remaining (allowance : Allowance) : Nat :=
  allowance.available - allowance.used

def exhausted (allowance : Allowance) : Bool :=
  allowance.active && allowance.remaining = 0

/-- The allowance after a charge, and whether the charge is accepted. -/
def charge (allowance : Allowance) (bytes : Nat) : Allowance × Bool :=
  if allowance.remaining < bytes then (allowance, !allowance.active)
  else (allowance.withUsed (allowance.used + bytes), true)

end Allowance

inductive Budget where
  | unlimited
  | limited (allowance : Allowance)
  deriving DecidableEq, Repr

namespace Budget

def remaining : Budget → Nat
  | .unlimited => Numeric.maxWord64
  | .limited allowance => allowance.remaining

def active : Budget → Bool
  | .unlimited => false
  | .limited allowance => allowance.active

def exhausted (budget : Budget) : Bool :=
  budget.active && budget.remaining = 0

def charge : Budget → Nat → Budget × Bool
  | .unlimited, _ => (.unlimited, true)
  | .limited allowance, bytes =>
    let (charged, accepted) := allowance.charge bytes
    (.limited charged, accepted)

end Budget

end Throughput
