import Throughput.Worker.Basic
import Throughput.Proofs.Numeric.Sized

/-!
# Trust

What the verdict on a run says about its workers. A worker whose last sample came before the window
covers a negative time, and that is short of any positive target.
-/

namespace Throughput

open Numeric (Sized sized_ofNat sized_ofInt sized_million sized_threeQuarters)

namespace Coverage

theorem sized_required {target : Nat} (htarget : target ≠ 0) :
    Sized .positive (-53) (required target) :=
  ((sized_ofNat htarget).mul sized_million (by decide)).mul sized_threeQuarters (by decide)

theorem covered_nonneg {worker : Coverage} {start : Int} {target : Nat} (htarget : target ≠ 0)
    (h : worker.isLongEnough start target = true) : 0 ≤ worker.covered start := by
  apply Int.not_lt.1
  intro hneg
  have hlt : Float.ofInt (worker.covered start) < required target :=
    (sized_ofInt hneg).lt (sized_required htarget)
  simp [isLongEnough, hlt] at h

end Coverage

theorem covered_of_trustable {workers : List Worker} {start : Nat} {target : Nat}
    (htarget : target ≠ 0) (htrust : trustable (workers.map Worker.coverage) start target = true)
    {worker : Worker} (hmem : worker ∈ workers) (hsucceeded : worker.state = .succeeded) :
    0 ≤ worker.coverage.covered start := by
  rw [trustable_eq] at htrust
  obtain ⟨-, hall⟩ := Bool.and_eq_true_iff.mp htrust
  have hfinished : worker.coverage ∈ (workers.map Worker.coverage).filter Coverage.isSuccess :=
    List.mem_filter.mpr ⟨List.mem_map_of_mem hmem, decide_eq_true hsucceeded⟩
  exact Coverage.covered_nonneg htarget (List.all_eq_true.mp hall _ hfinished)

end Throughput
