import Mathlib.Data.List.Basic
import Throughput.Worker.Basic

/-!
# Reports of workers

What a worker has to show for its time. From its first bytes on it holds samples, of which none is
empty and none lies before another, and it counts as successful in the end. A worker that ends
earlier has nothing to report.
-/

namespace Throughput

/-- Samples as a worker takes them: none is empty, and none lies before another. -/
structure Successive (samples : List Sample) : Prop where
  positive : ∀ sample ∈ samples, 0 < sample.bytes
  ordered : samples.Pairwise fun left right => left.elapsed ≤ right.elapsed

namespace Successive

theorem nil : Successive [] :=
  ⟨by simp, .nil⟩

theorem concat {samples : List Sample} {last : Sample} (h : Successive samples)
    (hlast : 0 < last.bytes) (hpast : ∀ sample ∈ samples, sample.elapsed ≤ last.elapsed) :
    Successive (samples ++ [last]) where
  positive := by
    intro sample hmem
    rcases List.mem_append.mp hmem with hmem | hmem
    · exact h.positive sample hmem
    · rwa [List.mem_singleton.mp hmem]
  ordered := by
    refine List.pairwise_append.mpr ⟨h.ordered, List.pairwise_singleton _ _, ?_⟩
    intro sample hmem other hother
    rw [List.mem_singleton.mp hother]
    exact hpast sample hmem

end Successive

namespace Worker

/-- What a worker that reads has taken up to now. -/
structure Sampled (now : Nat) (worker : Worker) : Prop where
  started : worker.started.isSome = true
  first : ∃ elapsed : Nat, worker.firstByte = some elapsed ∧
    worker.samples.head?.map Sample.elapsed = some (elapsed : Int)
  successive : Successive worker.samples
  past : ∀ sample ∈ worker.samples, sample.elapsed ≤ worker.elapsed now

/-- What holds of a worker that reports. -/
structure Reports (worker : Worker) : Prop where
  succeeded_iff : worker.state = .succeeded ↔ worker.samples ≠ []
  firstByte_iff : worker.firstByte.isSome = true ↔ worker.samples ≠ []
  unfinished : worker.state ≠ .succeeded → worker.samples = []
  successive : Successive worker.samples
  first : worker.samples.head?.map Sample.elapsed =
    worker.firstByte.map fun elapsed => (elapsed : Int)
  started : worker.samples ≠ [] → worker.started.isSome = true
  closed : worker.state ≠ .downloading ∧ worker.holdsStream = false

section Sampled

variable {worker : Worker} {now : Nat}

theorem Sampled.samples_ne_nil (h : worker.Sampled now) : worker.samples ≠ [] := by
  obtain ⟨elapsed, -, hhead⟩ := h.first
  rintro hnil
  rw [hnil] at hhead
  cases hhead

/-- The first read. -/
theorem sampled_readFirst (hstarted : worker.started.isSome = true) (hsamples : worker.samples = [])
    (count : Nat) : (worker.readFirst now (.bytes (count + 1))).Sampled now where
  started := hstarted
  first := ⟨worker.elapsed now, rfl, by simp [readFirst, Worker.record, hsamples]⟩
  successive := by
    rw [readFirst, Worker.record, hsamples]
    exact Successive.nil.concat (Int.natCast_pos.mpr (Nat.succ_pos count)) (by simp)
  past := by
    intro sample hmem
    simp only [readFirst, Worker.record, hsamples, List.nil_append, List.mem_singleton] at hmem
    rw [hmem]
    exact Int.le_refl _

theorem Sampled.later {time : Nat} (h : worker.Sampled now) (hlater : now ≤ time) :
    worker.Sampled time where
  started := h.started
  first := h.first
  successive := h.successive
  past := fun sample hmem =>
    Int.le_trans (h.past sample hmem) (Int.ofNat_le.mpr (Nat.sub_le_sub_right hlater _))

theorem Sampled.record (h : worker.Sampled now) (count : Nat) :
    (worker.record now (count + 1)).Sampled now where
  started := h.started
  first := by
    obtain ⟨elapsed, hfirst, hhead⟩ := h.first
    refine ⟨elapsed, hfirst, ?_⟩
    rw [Worker.record, List.head?_append_of_ne_nil _ h.samples_ne_nil, hhead]
  successive := h.successive.concat (Int.natCast_pos.mpr (Nat.succ_pos count)) h.past
  past := by
    intro sample hmem
    rcases List.mem_append.mp hmem with hmem | hmem
    · exact h.past sample hmem
    · rw [List.mem_singleton.mp hmem]
      exact Int.le_refl _

theorem Sampled.stop (h : worker.Sampled now) : worker.stop.Sampled now :=
  ⟨h.started, h.first, h.successive, h.past⟩

theorem Sampled.finish (h : worker.Sampled now) : worker.finish.Sampled now :=
  ⟨h.started, h.first, h.successive, h.past⟩

/-- A worker that ends once it has read. -/
theorem Sampled.reports (h : worker.Sampled now) (hstate : worker.state = .succeeded)
    (hstream : worker.holdsStream = false) : worker.Reports := by
  obtain ⟨elapsed, hfirst, hhead⟩ := h.first
  exact
    { succeeded_iff := iff_of_true hstate h.samples_ne_nil
      firstByte_iff := iff_of_true (by rw [hfirst]; rfl) h.samples_ne_nil
      unfinished := fun hunfinished => absurd hstate hunfinished
      successive := h.successive
      first := by rw [hhead, hfirst]; rfl
      started := fun _ => h.started
      closed := ⟨by rw [hstate]; exact WorkerState.noConfusion, hstream⟩ }

/-- A worker that ends before it has read. -/
theorem reports_of_unread (hsamples : worker.samples = []) (hfirst : worker.firstByte = none)
    (hstream : worker.holdsStream = false)
    (hstate : worker.state ≠ .succeeded ∧ worker.state ≠ .downloading) : worker.Reports where
  succeeded_iff := iff_of_false hstate.1 (not_not_intro hsamples)
  firstByte_iff := iff_of_false (by simp [hfirst]) (not_not_intro hsamples)
  unfinished := fun _ => hsamples
  successive := hsamples ▸ .nil
  first := by rw [hsamples, hfirst]; rfl
  started := fun hread => absurd hsamples hread
  closed := ⟨hstate.2, hstream⟩

end Sampled

end Worker

end Throughput
