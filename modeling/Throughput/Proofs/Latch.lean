import Throughput.Latch
import Throughput.Proofs.Dialogue

/-!
# Latches by their counts

A latch that only ever records is its two counts: it has fired once they add up to what it expects.
-/

namespace Throughput

namespace Latch

open Dialogue

/-- The latch after so many reports. -/
def ofCounts (expected succeeded failed : Nat) : Latch :=
  { expected
    succeeded
    failed
    fired := decide (succeeded + failed = expected) }

variable {expected succeeded failed : Nat}

theorem ofCounts_zero (hexpected : 0 < expected) : ofCounts expected 0 0 = ofExpected expected := by
  have hne : 0 + 0 ≠ expected := by omega
  rw [ofCounts, ofExpected, decide_eq_false hne]

theorem record_ofCounts (hopen : succeeded + failed < expected) (success : Bool) :
    (ofCounts expected succeeded failed).record success =
      (ofCounts expected (succeeded + success.toNat) (failed + (!success).toNat),
        if succeeded + failed + 1 = expected then
          some ⟨succeeded + success.toNat, failed + (!success).toNat⟩
        else none) := by
  have hne : succeeded + failed ≠ expected := Nat.ne_of_lt hopen
  have hsuccess : succeeded + 1 + failed = succeeded + failed + 1 := by omega
  have hfailure : succeeded + (failed + 1) = succeeded + failed + 1 := by omega
  cases success <;>
    by_cases hlast : succeeded + failed + 1 = expected <;>
      simp [record, ofCounts, count, tally, hne, hsuccess, hfailure, hlast]

theorem after_ofCounts {reports : List Bool}
    (hroom : succeeded + failed + reports.length ≤ expected) :
    after record (ofCounts expected succeeded failed) reports =
      ofCounts expected (succeeded + reports.count true) (failed + reports.count false) := by
  induction reports generalizing succeeded failed with
  | nil => rfl
  | cons success rest ih =>
    rw [List.length_cons] at hroom
    have hopen : succeeded + failed < expected := by omega
    have hrest : succeeded + success.toNat + (failed + (!success).toNat) + rest.length ≤
        expected := by
      cases success <;> simp <;> omega
    have hsucceeded : succeeded + success.toNat + rest.count true =
        succeeded + (success :: rest).count true := by
      rw [List.count_cons, Nat.add_assoc, Nat.add_comm success.toNat]
      cases success <;> rfl
    have hfailed : failed + (!success).toNat + rest.count false =
        failed + (success :: rest).count false := by
      rw [List.count_cons, Nat.add_assoc, Nat.add_comm (!success).toNat]
      cases success <;> rfl
    rw [after_cons, record_ofCounts hopen, ih hrest, hsucceeded, hfailed]

theorem recordFailures_eq_after (latch : Latch) (missing : Nat) :
    latch.recordFailures missing = after record latch (List.replicate missing false) := by
  induction missing generalizing latch with
  | zero => rfl
  | succ missing ih => exact ih (latch.record false).1

theorem recordFailures_ofCounts {missing : Nat}
    (hroom : succeeded + failed + missing ≤ expected) :
    (ofCounts expected succeeded failed).recordFailures missing =
      ofCounts expected succeeded (failed + missing) := by
  rw [recordFailures_eq_after, after_ofCounts (by simpa using hroom)]
  simp [List.count_replicate]

end Latch

end Throughput
