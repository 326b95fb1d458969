import Throughput.Rate

/-!
# Averages of ordered samples

As long as samples come in order of time, a window is averaged over exactly the samples that lie
inside, both ends included. The pass over the samples stops early, but only where nothing of the
window is left. Samples outside play no part, however many there are.
-/

namespace Throughput

def Sample.within (start stop : Int) (sample : Sample) : Bool :=
  start ≤ sample.elapsed && sample.elapsed ≤ stop

/-- The samples inside a window, both ends included. -/
def insideWindow (samples : List Sample) (start stop : Int) : List Sample :=
  samples.filter (Sample.within start stop)

/-- Behind the first sample after the window there is none inside any more. -/
theorem insideWindow_of_after {sample : Sample} {rest : List Sample} {start stop : Int}
    (hafter : stop < sample.elapsed) (hlater : ∀ later ∈ rest, sample.elapsed ≤ later.elapsed) :
    insideWindow (sample :: rest) start stop = [] := by
  rw [insideWindow, List.filter_eq_nil_iff]
  intro other hmem
  have hother : sample.elapsed ≤ other.elapsed := by
    rcases List.mem_cons.mp hmem with rfl | hmem
    · exact Int.le_refl _
    · exact hlater other hmem
  simp only [Sample.within, Bool.and_eq_true, decide_eq_true_eq]
  omega

section Ordered

variable {samples : List Sample}
  (horder : samples.Pairwise fun left right => left.elapsed ≤ right.elapsed) (start stop : Int)
include horder

theorem windowSamples_of_ordered :
    windowSamples samples start stop = insideWindow samples start stop := by
  induction samples with
  | nil => rfl
  | cons sample rest ih =>
    obtain ⟨hlater, hrest⟩ := List.pairwise_cons.mp horder
    by_cases hbefore : sample.elapsed < start
    · have hout : ¬ sample.within start stop = true := by
        simp only [Sample.within, Bool.and_eq_true, decide_eq_true_eq]
        omega
      rw [windowSamples_before hbefore, ih hrest, insideWindow, insideWindow,
        List.filter_cons_of_neg hout]
    · by_cases hafter : stop < sample.elapsed
      · rw [windowSamples_after hbefore hafter, insideWindow_of_after hafter hlater]
      · have hin : sample.within start stop = true := by
          simp only [Sample.within, Bool.and_eq_true, decide_eq_true_eq]
          omega
        rw [windowSamples_inside hbefore hafter, ih hrest, insideWindow, insideWindow,
          List.filter_cons_of_pos hin]

theorem averageThroughput_eq_rateOf_insideWindow :
    averageThroughput samples start stop = rateOf (insideWindow samples start stop) := by
  rw [averageThroughput_eq_rateOf, windowSamples_of_ordered horder start stop]

/-- The average of ordered samples is that of the ones inside the closed window, whose bytes are
divided by the time from the first to the last of them. Without any it is zero. Two lists that agree
inside the window have one average. -/
theorem averageThroughput_of_ordered :
    (∀ first last, (insideWindow samples start stop).head? = some first →
      (insideWindow samples start stop).getLast? = some last →
      averageThroughput samples start stop =
        bitsPerSecond (byteSum (insideWindow samples start stop)) (last.elapsed - first.elapsed)) ∧
      (insideWindow samples start stop = [] → averageThroughput samples start stop = 0.0) ∧
      ∀ others : List Sample,
        (others.Pairwise fun left right => left.elapsed ≤ right.elapsed) →
        insideWindow others start stop = insideWindow samples start stop →
        averageThroughput others start stop = averageThroughput samples start stop := by
  have haverage : averageThroughput samples start stop = rateOf (insideWindow samples start stop) :=
    averageThroughput_eq_rateOf_insideWindow horder start stop
  refine ⟨?_, ?_, ?_⟩
  · intro first last hfirst hlast
    rw [haverage, rateOf_eq hfirst hlast]
  · intro hnone
    rw [haverage, hnone]
    rfl
  · intro others hothers hsame
    rw [averageThroughput_eq_rateOf_insideWindow hothers start stop, hsame, haverage]

end Ordered

/-- Two samples on each end of the window are inside. One before and one behind are not. -/
theorem averageThroughput_of_ordered_ends :
    let samples : List Sample := [⟨99, 1⟩, ⟨100, 10⟩, ⟨100, 20⟩, ⟨300, 30⟩, ⟨300, 40⟩, ⟨301, 1⟩]
    samples.Pairwise (fun left right => left.elapsed ≤ right.elapsed) ∧
      averageThroughput samples 100 300 = bitsPerSecond 100 200 ∧
      averageThroughput samples 302 300 = 0.0 ∧
      averageThroughput [⟨100, 10⟩, ⟨100, 20⟩, ⟨300, 30⟩, ⟨300, 40⟩] 100 300 =
        averageThroughput samples 100 300 := by
  intro samples
  have horder : samples.Pairwise fun left right => left.elapsed ≤ right.elapsed := by decide
  obtain ⟨hspanned, -, hsame⟩ := averageThroughput_of_ordered horder 100 300
  obtain ⟨-, hnone, -⟩ := averageThroughput_of_ordered horder 302 300
  exact ⟨horder, hspanned ⟨100, 10⟩ ⟨300, 40⟩ (by decide) (by decide), hnone (by decide),
    hsame _ (by decide) (by decide)⟩

end Throughput
