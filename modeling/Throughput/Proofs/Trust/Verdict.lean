import Throughput.Trust

/-!
# Verdicts on lists of workers

A list of workers is trusted when some of them succeeded and each of these would be trusted alone.
So neither their order nor workers in other states have a part in the verdict, trusted lists make
a trusted list together, and it does not matter from where times are counted.
-/

namespace Throughput

namespace Coverage

variable {windowStart : Int} {targetMillis : Nat}

def delay (worker : Coverage) (offset : Int) : Coverage :=
  { worker with started := worker.started + offset }

theorem isLongEnough_delay (worker : Coverage) (offset : Int) :
    (worker.delay offset).isLongEnough (windowStart + offset) targetMillis =
      worker.isLongEnough windowStart targetMillis := by
  have hcovered : (worker.delay offset).covered (windowStart + offset) =
      worker.covered windowStart := by
    simp only [covered, delay]
    omega
  rw [isLongEnough, isLongEnough, hcovered]

/-- A worker that succeeded is trusted alone if it is long enough. -/
theorem trustable_singleton {worker : Coverage} (hsuccess : worker.isSuccess = true) :
    trustable [worker] windowStart targetMillis =
      worker.isLongEnough windowStart targetMillis := by
  rw [trustable_eq, List.filter_cons_of_pos hsuccess]
  simp

/-- A verdict that takes the workers as a whole. -/
structure AllOrNothing (workers : List Coverage) (windowStart : Int) (targetMillis : Nat) :
    Prop where
  verdict : trustable workers windowStart targetMillis = true ↔
    (∃ worker ∈ workers, worker.state = .succeeded) ∧
      ∀ worker ∈ workers, worker.state = .succeeded →
        trustable [worker] windowStart targetMillis = true
  reordered : ∀ others, others.Perm workers →
    trustable others windowStart targetMillis = trustable workers windowStart targetMillis
  /-- Workers in other states may come and go. -/
  unaffected : ∀ others,
    (others.filter fun worker => worker.state = .succeeded) =
      (workers.filter fun worker => worker.state = .succeeded) →
    trustable others windowStart targetMillis = trustable workers windowStart targetMillis
  joined : trustable workers windowStart targetMillis = true →
    ∀ others, trustable others windowStart targetMillis = true →
      trustable (workers ++ others) windowStart targetMillis = true
  delayed : ∀ offset,
    trustable (workers.map (delay · offset)) (windowStart + offset) targetMillis =
      trustable workers windowStart targetMillis

end Coverage

open Coverage

section Verdict

variable {workers others : List Coverage} {windowStart : Int} {targetMillis : Nat}

theorem trustable_iff :
    trustable workers windowStart targetMillis = true ↔
      (∃ worker ∈ workers, worker.state = .succeeded) ∧
        ∀ worker ∈ workers, worker.state = .succeeded →
          worker.isLongEnough windowStart targetMillis = true := by
  rw [trustable_eq, Bool.and_eq_true_iff]
  refine and_congr ?_ ?_
  · simp [isSuccess]
  · simp only [List.all_eq_true, List.mem_filter, isSuccess, decide_eq_true_eq, and_imp]

/-- Only the workers that succeeded are looked at, in whatever order. -/
theorem trustable_congr (h : (others.filter isSuccess).Perm (workers.filter isSuccess)) :
    trustable others windowStart targetMillis = trustable workers windowStart targetMillis := by
  rw [trustable_eq, trustable_eq, h.isEmpty_eq, h.all_eq]

theorem trustable_append (hworkers : trustable workers windowStart targetMillis = true)
    (hothers : trustable others windowStart targetMillis = true) :
    trustable (workers ++ others) windowStart targetMillis = true := by
  rw [trustable_iff] at hworkers hothers ⊢
  obtain ⟨⟨worker, hmem, hsuccess⟩, hlong⟩ := hworkers
  refine ⟨⟨worker, List.mem_append_left others hmem, hsuccess⟩, ?_⟩
  intro worker hmem hsuccess
  rcases List.mem_append.mp hmem with hmem | hmem
  · exact hlong worker hmem hsuccess
  · exact hothers.2 worker hmem hsuccess

theorem trustable_delay (workers : List Coverage) (offset : Int) :
    trustable (workers.map (delay · offset)) (windowStart + offset) targetMillis =
      trustable workers windowStart targetMillis := by
  have hsame : (workers.map (delay · offset)).filter isSuccess =
      (workers.filter isSuccess).map (delay · offset) := List.filter_map
  rw [trustable_eq, trustable_eq, hsame, List.isEmpty_map, List.all_map]
  simp only [Function.comp_def, isLongEnough_delay]

end Verdict

theorem trustable_allOrNothing (workers : List Coverage) (windowStart : Int)
    (targetMillis : Nat) : AllOrNothing workers windowStart targetMillis where
  verdict := by
    rw [trustable_iff]
    refine and_congr_right fun _ => forall₃_congr fun worker _ hsuccess => ?_
    rw [trustable_singleton (decide_eq_true hsuccess)]
  reordered := fun _ hperm => trustable_congr (hperm.filter _)
  unaffected := fun _ hsame => trustable_congr (.of_eq hsame)
  joined := fun hworkers _ hothers => trustable_append hworkers hothers
  delayed := trustable_delay workers

/-- A worker that failed is not counted, and one that began late has the time before it credited. -/
theorem trustable_allOrNothing_late_worker :
    let early : List Coverage := [⟨.failed, 0, 0⟩, ⟨.succeeded, 0, 9500000000⟩]
    let late : List Coverage := [⟨.succeeded, 1500000000, 8000000000⟩]
    trustable early 2000000000 10000 = true ∧ trustable late 2000000000 10000 = true ∧
      trustable (early ++ late) 2000000000 10000 = true := by
  intro early late
  have hearly : trustable early 2000000000 10000 = true := by decide +kernel
  have hlate : trustable late 2000000000 10000 = true := by decide +kernel
  exact ⟨hearly, hlate, (trustable_allOrNothing early 2000000000 10000).joined hearly late hlate⟩

end Throughput
