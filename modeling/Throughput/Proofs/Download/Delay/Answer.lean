import Throughput.Proofs.Download.Answer
import Throughput.Proofs.Download.Delay

/-!
# What a delayed download answers

A worker samples in its own time. So what a delayed download makes of its workers is what it would
have made of them before, and the answer is the same, only later.
-/

namespace Throughput

/-- A report of a worker that did the same later, or failed in another way. -/
inductive Worker.Trails (lag : Nat) : Worker → Worker → Prop
  | delayed {worker : Worker} : worker.started.isSome = true → Trails lag (worker.delay lag) worker
  | failed {late early : Worker} : late.state = .failed → early.state = .failed →
      late.samples = [] → early.samples = [] → Trails lag late early

theorem Task.Trails.worker {lag : Nat} {late early : Task} (h : Task.Trails lag late early) :
    late.worker.Trails lag early.worker := by
  cases h with
  | delayed hstarted => exact .delayed hstarted
  | lost hlate hearly => exact .failed hlate.state hearly.state hlate.samples hearly.samples

namespace Worker

variable {lag start : Nat} {worker late early : Worker}

theorem started_delay (hstarted : worker.started.isSome = true) :
    (worker.delay lag).coverage.started = worker.coverage.started + lag := by
  obtain ⟨started, hsome⟩ := Option.isSome_iff_exists.mp hstarted
  simp [coverage, delay, hsome]

theorem threadRate_delay (definition : DownloadDefinition)
    (hstarted : worker.started.isSome = true) :
    DownloadResult.threadRate definition (start + lag) (worker.delay lag) =
      DownloadResult.threadRate definition start worker := by
  have hsame : ((start + lag : Nat) : Int) - (worker.delay lag).coverage.started =
      start - worker.coverage.started := by
    rw [started_delay hstarted]
    omega
  have hsamples : (worker.delay lag).samples = worker.samples := rfl
  rw [DownloadResult.threadRate, DownloadResult.threadRate, hsame, hsamples]

theorem isLongEnough_delay (target : Nat) (hstarted : worker.started.isSome = true) :
    (worker.delay lag).coverage.isLongEnough ((start + lag : Nat) : Int) target =
      worker.coverage.isLongEnough start target := by
  have hsame : (worker.delay lag).coverage.covered ((start + lag : Nat) : Int) =
      worker.coverage.covered start := by
    have hrunTime : (worker.delay lag).coverage.runTime = worker.coverage.runTime := rfl
    rw [Coverage.covered, Coverage.covered, started_delay hstarted, hrunTime]
    omega
  rw [Coverage.isLongEnough, Coverage.isLongEnough, hsame]

theorem Trails.samples_eq (h : Trails lag late early) : late.samples = early.samples := by
  cases h with
  | delayed => rfl
  | failed _ _ hlate hearly => rw [hlate, hearly]

theorem Trails.state_eq (h : Trails lag late early) : late.state = early.state := by
  cases h with
  | delayed => rfl
  | failed hlate hearly => rw [hlate, hearly]

end Worker

section Reduce

variable {lag start : Nat} {late early : List Worker}
  (h : List.Forall₂ (Worker.Trails lag) late early)
include h

theorem judge_delay (target successful : Nat) :
    Coverage.judge ((start + lag : Nat) : Int) target successful (late.map Worker.coverage) =
      Coverage.judge start target successful (early.map Worker.coverage) := by
  induction h generalizing successful with
  | nil => rfl
  | cons hfirst _ ih =>
    simp only [List.map_cons, Coverage.judge, ih]
    cases hfirst with
    | delayed hstarted =>
      rw [Worker.isLongEnough_delay target hstarted]
      rfl
    | failed hlate hearly =>
      simp [Coverage.isSuccess, Worker.coverage, hlate, hearly]

theorem contributors_delay :
    ∃ workers : List Worker, (∀ worker ∈ workers, worker.started.isSome = true) ∧
      late.filter (fun worker => worker.state = .succeeded) = workers.map (Worker.delay lag) ∧
      early.filter (fun worker => worker.state = .succeeded) = workers := by
  induction h with
  | nil => exact ⟨[], by simp, rfl, rfl⟩
  | @cons first other _ _ hfirst _ ih =>
    obtain ⟨workers, hstarted, hlate, hearly⟩ := ih
    have hsame := hfirst.state_eq
    by_cases hstate : other.state = .succeeded
    · cases hfirst with
      | delayed hsome =>
        refine ⟨other :: workers, List.forall_mem_cons.mpr ⟨hsome, hstarted⟩, ?_, ?_⟩
        · simp [hstate, hsame, hlate]
        · simp [hstate, hearly]
      | failed _ hfailed =>
        rw [hfailed] at hstate
        cases hstate
    · exact ⟨workers, hstarted, by simp [hstate, hsame, hlate], by simp [hstate, hearly]⟩

theorem reduce_delay (definition : DownloadDefinition) :
    DownloadResult.reduce definition (start + lag) late =
      DownloadResult.reduce definition start early := by
  obtain ⟨workers, hstarted, hlate, hearly⟩ := contributors_delay h
  have htrust := @judge_delay lag start late early h definition.targetTime.toNat 0
  have hrates : (workers.map (Worker.delay lag)).map
      (DownloadResult.threadRate definition (start + lag)) =
        workers.map (DownloadResult.threadRate definition start) := by
    rw [List.map_map]
    exact List.map_congr_left fun worker hmem =>
      Worker.threadRate_delay definition (hstarted worker hmem)
  have hslots : ((workers.map (Worker.delay lag)).map fun worker =>
      timeSlices worker.samples definition.slotLength.toNat) =
        workers.map fun worker => timeSlices worker.samples definition.slotLength.toNat := by
    rw [List.map_map]
    rfl
  simp only [DownloadResult.reduce, trustable, htrust, hlate, hearly, DownloadResult.ofWorkers,
    hrates, hslots]

end Reduce

namespace DownloadEnd.Trails

variable {lag : Nat} {late early : DownloadEnd} (h : late.Trails lag early)
include h

theorem reports : List.Forall₂ (Worker.Trails lag) late.reports early.reports := by
  refine List.forall₂_map_left_iff.mpr (List.forall₂_map_right_iff.mpr ?_)
  exact h.download.tasks.imp fun _ _ htrails => (htrails.obey .stop).worker

/-- The answer is the same, only later. -/
theorem answer_eq (definition : DownloadDefinition) :
    late.answer definition =
      { early.answer definition with time := (early.answer definition).time + lag } := by
  have hsamples : late.reports.map Worker.samples = early.reports.map Worker.samples := by
    have hreports := h.reports
    generalize late.reports = left at hreports
    generalize early.reports = right at hreports
    induction hreports with
    | nil => rfl
    | cons hfirst _ ih => rw [List.map_cons, List.map_cons, hfirst.samples_eq, ih]
  have htraffic : late.traffic = early.traffic := by
    have hsum := congrArg (fun samples => (samples.map totalBytes).sum) hsamples
    simpa only [traffic_eq_sum, List.map_map, Function.comp_def] using hsum
  have houtcome : (late.windowStart.bind fun start =>
      DownloadResult.reduce definition start late.reports) =
        early.windowStart.bind fun start =>
          DownloadResult.reduce definition start early.reports := by
    rw [h.windowStart]
    cases early.windowStart with
    | error e => rfl
    | ok start => exact reduce_delay h.reports definition
  simp only [answer, houtcome, h.time, htraffic]

end DownloadEnd.Trails

end Throughput
