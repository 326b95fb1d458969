import Mathlib.Data.List.TakeWhile
import Throughput.Download.Run
import Throughput.Proofs.StableSort
import Throughput.Proofs.Worker.Readings

/-!
# Samples in the window

A worker whose samples reach into the window, none of them beyond its end, is rated by all that it
sampled since the window started.
-/

namespace Throughput

theorem TimedReading.of_sample? {timed : TimedReading} {sample : Sample}
    (h : timed.sample? = some sample) : sample.elapsed = timed.time ∧ 0 < sample.bytes := by
  obtain ⟨time, reading⟩ := timed
  rcases reading with (_ | count) | _ | _
  · cases h
  · cases h
    exact ⟨rfl, Int.natCast_pos.mpr (Nat.succ_pos count)⟩
  · cases h
  · cases h

namespace Readings

theorem samples_ne_nil {readings : Readings} (h : readings.delivers = true) :
    readings.samples ≠ [] := by
  obtain ⟨⟨time, reading⟩, rest, rfl⟩ := List.exists_cons_of_ne_nil (ne_nil_of_delivers h)
  rcases reading with (_ | count) | _ | _
  · cases h
  · have hopen : TimedReading.ends ⟨time, .bytes (count + 1)⟩ = false := rfl
    have hsample : TimedReading.sample? ⟨time, .bytes (count + 1)⟩ =
        some ⟨time, (count + 1 : Nat)⟩ := rfl
    rw [samples, List.takeWhile_cons_of_pos (by rw [hopen]; rfl), List.filterMap_cons_some hsample]
    exact List.cons_ne_nil _ _
  · cases h
  · cases h

theorem exists_of_mem_samples {readings : Readings} {sample : Sample}
    (hmem : sample ∈ readings.samples) : ∃ timed ∈ readings, sample.elapsed = timed.time := by
  obtain ⟨timed, htimed, hsample⟩ := List.mem_filterMap.mp hmem
  exact ⟨timed, List.takeWhile_subset _ htimed, (TimedReading.of_sample? hsample).1⟩

theorem bytes_pos_of_mem_samples {readings : Readings} {sample : Sample}
    (hmem : sample ∈ readings.samples) : 0 < sample.bytes := by
  obtain ⟨timed, -, hsample⟩ := List.mem_filterMap.mp hmem
  exact (TimedReading.of_sample? hsample).2

theorem pairwise_samples {readings : Readings}
    (hascending : Ascending TimedReading.time readings) :
    readings.samples.Pairwise fun left right => left.elapsed ≤ right.elapsed := by
  refine (hascending.sublist (List.takeWhile_sublist _)).filterMap _ ?_
  intro left right hle leftSample hleft rightSample hright
  rw [(TimedReading.of_sample? hleft).1, (TimedReading.of_sample? hright).1]
  exact Int.ofNat_le.mpr hle

end Readings

namespace Worker

def samplesFrom (worker : Worker) (start : Nat) : List Sample :=
  worker.samples.filter fun sample => (start : Int) - worker.coverage.started ≤ sample.elapsed

/-- The bytes since the start of the window, over the time from the first sample in it to the
worker's last. -/
def rateFrom (worker : Worker) (start : Nat) : Float :=
  match worker.samplesFrom start, worker.samples.getLast? with
  | first :: _, some last =>
    bitsPerSecond (byteSum (worker.samplesFrom start)) (last.elapsed - first.elapsed)
  | _, _ => 0.0

section Window

variable {worker : Worker} {start : Nat} {last : Sample}
  (hlast : worker.samples.getLast? = some last)
include hlast

theorem last_mem_samplesFrom (hcovered : 0 ≤ worker.coverage.covered start) :
    last ∈ worker.samplesFrom start := by
  have hruntime : worker.coverage.runTime = last.elapsed := by
    rw [coverage, hlast]
  have hlate : (start : Int) - worker.coverage.started ≤ last.elapsed := by
    rw [Coverage.covered, hruntime] at hcovered
    omega
  exact List.mem_filter.mpr ⟨List.mem_of_getLast? hlast, decide_eq_true hlate⟩

theorem getLast?_samplesFrom (hmem : last ∈ worker.samplesFrom start) :
    (worker.samplesFrom start).getLast? = some last := by
  have hlate : (start : Int) - worker.coverage.started ≤ last.elapsed :=
    of_decide_eq_true (List.mem_filter.mp hmem).2
  obtain ⟨earlier, hsamples⟩ := List.getLast?_eq_some_iff.mp hlast
  rw [samplesFrom, hsamples, List.filter_append, List.filter_singleton, decide_eq_true hlate]
  exact List.getLast?_concat

/-- The time between the first and the last sample in the window is that up to the worker's last
sample of all. -/
theorem rateOf_samplesFrom (hmem : last ∈ worker.samplesFrom start) :
    rateOf (worker.samplesFrom start) = worker.rateFrom start := by
  have hend := getLast?_samplesFrom hlast hmem
  obtain ⟨first, rest, hcons⟩ := List.exists_cons_of_ne_nil (List.ne_nil_of_mem hmem)
  have hfirst : (worker.samplesFrom start).head? = some first := by
    rw [hcons]
    rfl
  rw [rateFrom, hlast, rateOf_eq hfirst hend, hcons]

end Window

theorem windowSamples_eq_samplesFrom {worker : Worker} {start : Nat} {stop : Int}
    (hstop : ∀ sample ∈ worker.samples, sample.elapsed ≤ stop) :
    windowSamples worker.samples (start - worker.coverage.started) stop =
      worker.samplesFrom start := by
  apply List.takeWhile_eq_self_iff.mpr
  intro sample hmem
  exact decide_eq_true (hstop sample (List.mem_filter.mp hmem).1)

end Worker

end Throughput
