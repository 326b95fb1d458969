import Throughput.Budget

/-!
# Charges

A charge is made as a whole or not at all: what fits is used, and what does not fit changes nothing.
-/

namespace Throughput

namespace Allowance

variable {allowance : Allowance} {bytes : Nat}

theorem charge_of_le (h : bytes ≤ allowance.remaining) :
    allowance.charge bytes = (allowance.withUsed (allowance.used + bytes), true) :=
  if_neg (Nat.not_lt.mpr h)

theorem charge_of_lt (h : allowance.remaining < bytes) :
    allowance.charge bytes = (allowance, !allowance.active) :=
  if_pos h

theorem remaining_withUsed (allowance : Allowance) (bytes : Nat) :
    (allowance.withUsed (allowance.used + bytes)).remaining = allowance.remaining - bytes :=
  Nat.sub_add_eq allowance.available allowance.used bytes

theorem exhausted_iff (hactive : allowance.active = true) :
    allowance.exhausted = true ↔ allowance.remaining = 0 := by
  simp [exhausted, hactive]

end Allowance

namespace Budget

theorem charge_limited_of_le {allowance : Allowance} {bytes : Nat}
    (h : bytes ≤ allowance.remaining) :
    ((Budget.limited allowance).charge bytes).1 =
      .limited (allowance.withUsed (allowance.used + bytes)) := by
  simp only [charge, Allowance.charge_of_le h]

theorem charge_limited_of_lt {allowance : Allowance} {bytes : Nat}
    (h : allowance.remaining < bytes) :
    ((Budget.limited allowance).charge bytes).1 = .limited allowance := by
  simp only [charge, Allowance.charge_of_lt h]

end Budget

end Throughput
