import Throughput.Proofs.Download.Reference
import Throughput.Proofs.Trust
import Throughput.Proofs.Worker.Window

/-!
# The shape of a result

A run that ends with a result has had its window. The workers whose first byte came contribute to
it, and each of them by all that it sampled since the window started.
-/

namespace Throughput

namespace DownloadEnd

/-- The reports that a result is made of. -/
def contributors (ending : DownloadEnd) : List Worker :=
  ending.reports.filter fun worker => worker.state = .succeeded

end DownloadEnd

/-- The result of a run that ended so, with a window that had started, and whose coordinator has
heard of these events. -/
structure DownloadResult.Shaped (result : DownloadResult) (definition : DownloadDefinition)
    (ending : DownloadEnd) (start : Nat) (heard : List WorkerEvent) : Prop where
  tracker : ending.download.coordinator.tracker =
    Download.told (.ofWorkers definition.threads.toNat) heard
  contributors : ending.contributors.map Worker.id =
    (List.range definition.threads.toNat).filter fun id => .firstByte id true ∈ heard
  threads : result.threads.toNat = ending.download.coordinator.tracker.downloading
  length_perThread :
    result.perThread.length = ending.download.coordinator.tracker.downloading
  length_slotsPerThread :
    result.slotsPerThread.length = ending.download.coordinator.tracker.downloading
  one_le : 1 ≤ ending.download.coordinator.tracker.downloading
  le_threads : ending.download.coordinator.tracker.downloading ≤ definition.threads.toNat
  complete : ∀ worker ∈ ending.contributors,
    windowSamples worker.samples (start - worker.coverage.started)
        (start - worker.coverage.started + Span.ofMillis definition.targetTime.toNat) =
      worker.samplesFrom start ∧
    ∃ last, worker.samples.getLast? = some last ∧ last ∈ worker.samplesFrom start
  perThread : result.perThread = ending.contributors.map fun worker => worker.rateFrom start
  slotsPerThread : result.slotsPerThread =
    ending.contributors.map fun worker => timeSlices worker.samples definition.slotLength.toNat
  bandwidth : result.bandwidth = result.perThread.foldl (· + ·) 0.0

section Opened

variable {definition : DownloadDefinition} {now start : Nat} {done rest : Agenda}
  {ending : DownloadEnd}

theorem window?_of_verdict? (hverdict : done.verdict? definition = some (.ok start)) :
    ∃ window, done.window? definition = some window ∧ window.start = start := by
  have hanswered := Agenda.answered_of_verdict? hverdict
  have hdown : done.downloading definition.threads.toNat ≠ [] := by
    intro hsilent
    rw [Agenda.verdict?_of_silent hanswered hsilent] at hverdict
    cases hverdict
  rw [Agenda.verdict?_of_open hanswered hdown, Option.ite_none_right_eq_some] at hverdict
  refine ⟨_, Agenda.window?_of_open hanswered hdown, ?_⟩
  cases hverdict.2
  rfl

/-- A run that ends with a window has had it open until its last reading. -/
theorem Ends.opened (h : Ends definition now done rest ending)
    (htarget : 0 < definition.targetTime.toNat)
    (hascending : Ascending Appointment.time (done ++ rest))
    (hstart : ending.windowStart = .ok start) :
    ending.download = .carried definition done ∧
      ∃ window, done.window? definition = some window ∧ window.start = start ∧
        ∀ appointment ∈ done, appointment.time < window.stop := by
  cases h with
  | rests hunderway =>
    have hwindow : (Download.carried definition done).coordinator.window =
        done.window? definition := rfl
    rw [Download.rest, Coordinator.windowStart, hwindow] at hstart ⊢
    cases hopen : done.window? definition with
    | none =>
      rw [hopen] at hstart
      cases hstart
    | some window =>
      rw [hopen] at hstart
      cases hstart
      exact ⟨rfl, window, rfl, rfl, hunderway.timely window hopen⟩
  | @expires _ _ window hunderway hwindow hstop =>
    cases hstart
    exact ⟨rfl, window, hwindow, rfl, hunderway.timely window hwindow⟩
  | cancels => cases hstart
  | @concludes id timed before rest outcome hdone hunderway htimely hverdict =>
    subst hdone
    cases hstart
    obtain ⟨window, hwindow, hsame⟩ := window?_of_verdict? hverdict
    have hbefore : Ascending Appointment.time (before ++ [.reads id timed]) :=
      (List.pairwise_append.mp hascending).1
    exact ⟨rfl, window, hwindow, hsame,
      timely_concat htarget hbefore.le_of_before htimely window hwindow⟩

end Opened

section Contributors

variable {definition : DownloadDefinition} {done : Agenda} {ending : DownloadEnd}
  (hanswered : done.Answered definition.threads.toNat)
  (hdownload : ending.download = .carried definition done)
include hanswered hdownload

theorem contributors_eq : ending.contributors =
    (done.downloading definition.threads.toNat).map fun id =>
      Worker.reported id (done.readings id) := by
  obtain ⟨download, time, windowStart⟩ := ending
  subst hdownload
  rw [DownloadEnd.contributors, reports_carried, List.filter_map, Agenda.downloading]
  congr 1
  apply List.filter_congr
  intro id hmem
  have hbegun : done.readings id ≠ [] := hanswered id (List.mem_range.mp hmem)
  rw [Function.comp_apply]
  cases hdelivers : (done.readings id).delivers with
  | true => rw [Worker.reported_of_delivers hdelivers]; rfl
  | false => rw [Worker.reported_of_silent hbegun hdelivers]; rfl

theorem length_contributors :
    ending.contributors.length = ending.download.coordinator.tracker.downloading := by
  have htracker : ending.download.coordinator.tracker =
      .ofLog definition.threads.toNat (done.said definition.threads.toNat) := by
    rw [hdownload]
    rfl
  rw [contributors_eq hanswered hdownload, List.length_map, htracker, Tracker.downloading_ofLog,
    Agenda.downloadingOf_said]

theorem exists_of_mem_contributors {worker : Worker} (hmem : worker ∈ ending.contributors) :
    ∃ id, (done.readings id).delivers = true ∧
      worker =
        { id
          state := .succeeded
          holdsStream := false
          started := some 0
          firstByte := some (done.readings id).firstTime
          samples := (done.readings id).samples } := by
  rw [contributors_eq hanswered hdownload] at hmem
  obtain ⟨id, hid, rfl⟩ := List.mem_map.mp hmem
  have hdelivers : (done.readings id).delivers = true := (List.mem_filter.mp hid).2
  exact ⟨id, hdelivers, Worker.reported_of_delivers hdelivers⟩

theorem contributors_id : ending.contributors.map Worker.id =
    done.downloading definition.threads.toNat := by
  rw [contributors_eq hanswered hdownload, List.map_map]
  calc
    _ = (done.downloading definition.threads.toNat).map id := by
      apply List.map_congr_left
      intro id hmem
      rw [Function.comp_apply, Worker.reported_of_delivers (List.mem_filter.mp hmem).2]
      rfl
    _ = _ := List.map_id _

theorem sampled_before {stop : Nat} (hstop : ∀ appointment ∈ done, appointment.time < stop)
    {worker : Worker} (hmem : worker ∈ ending.contributors) :
    ∀ sample ∈ worker.samples, sample.elapsed < stop := by
  intro sample hsample
  obtain ⟨id, -, rfl⟩ := exists_of_mem_contributors hanswered hdownload hmem
  obtain ⟨timed, htimed, helapsed⟩ := Readings.exists_of_mem_samples hsample
  have htime : timed.time < stop := hstop _ (Agenda.mem_readings.mp htimed)
  omega

end Contributors

section Reduced

variable {definition : DownloadDefinition} {done : Agenda} {ending : DownloadEnd}
  {window : Window} {result : DownloadResult}

theorem ofWorkers_of_reduce {start : Nat}
    (hreduce : DownloadResult.reduce definition start ending.reports = .ok result) :
    trustable (ending.reports.map Worker.coverage) start definition.targetTime.toNat = true ∧
      result = .ofWorkers definition start ending.contributors := by
  rw [DownloadResult.reduce] at hreduce
  split at hreduce
  · next htrust =>
    cases hreduce
    exact ⟨htrust, rfl⟩
  · cases hreduce

section Complete

variable (htarget : 0 < definition.targetTime.toNat)
  (hdownload : ending.download = .carried definition done)
  (hwindow : done.window? definition = some window)
  (htimely : ∀ appointment ∈ done, appointment.time < window.stop)
  (htrust : trustable (ending.reports.map Worker.coverage) window.start
    definition.targetTime.toNat = true)
include htarget hdownload hwindow htimely htrust

theorem complete_of_trustable {worker : Worker} (hmem : worker ∈ ending.contributors) :
    windowSamples worker.samples (window.start - worker.coverage.started)
        (window.start - worker.coverage.started + Span.ofMillis definition.targetTime.toNat) =
      worker.samplesFrom window.start ∧
    ∃ last, worker.samples.getLast? = some last ∧ last ∈ worker.samplesFrom window.start := by
  obtain ⟨hanswered, -, hopened⟩ := Agenda.window?_eq_some.mp hwindow
  have hstop : window.stop = window.start + Span.ofMillis definition.targetTime.toNat := by
    rw [hopened, Window.ofDefinition]
  have hbefore := sampled_before hanswered hdownload htimely hmem
  obtain ⟨hreport, hsucceeded⟩ := List.mem_filter.mp hmem
  have hcovered := covered_of_trustable htarget.ne' htrust hreport (of_decide_eq_true hsucceeded)
  obtain ⟨id, hdelivers, hworker⟩ := exists_of_mem_contributors hanswered hdownload hmem
  have hstarted : worker.coverage.started = 0 := by
    rw [hworker]
    rfl
  constructor
  · apply Worker.windowSamples_eq_samplesFrom
    intro sample hsample
    have hlt := hbefore sample hsample
    omega
  · -- The first byte is a sample, so there is a last one.
    have hsome : worker.samples ≠ [] := by
      rw [hworker]
      exact Readings.samples_ne_nil hdelivers
    have hlast := List.getLast?_eq_some_getLast hsome
    exact ⟨_, hlast, Worker.last_mem_samplesFrom hlast hcovered⟩

theorem threadRate_eq_rateFrom {worker : Worker} (hmem : worker ∈ ending.contributors) :
    DownloadResult.threadRate definition window.start worker = worker.rateFrom window.start := by
  obtain ⟨hsamples, last, hlast, hlate⟩ :=
    complete_of_trustable htarget hdownload hwindow htimely htrust hmem
  calc
    DownloadResult.threadRate definition window.start worker
      = rateOf (worker.samplesFrom window.start) := by
        rw [DownloadResult.threadRate, averageThroughput_eq_rateOf, hsamples]
    _ = worker.rateFrom window.start := Worker.rateOf_samplesFrom hlast hlate

end Complete

theorem shaped_of_reduce {heard : List WorkerEvent} (htarget : 0 < definition.targetTime.toNat)
    (hdownload : ending.download = .carried definition done)
    (hwindow : done.window? definition = some window)
    (htimely : ∀ appointment ∈ done, appointment.time < window.stop)
    (htold : ending.download.coordinator.tracker =
      Download.told (.ofWorkers definition.threads.toNat) heard)
    (hheard : ∀ id ok, .firstByte id ok ∈ heard ↔
      .firstByte id ok ∈ done.said definition.threads.toNat)
    (hreduce : DownloadResult.reduce definition window.start ending.reports = .ok result) :
    result.Shaped definition ending window.start heard := by
  obtain ⟨htrust, rfl⟩ := ofWorkers_of_reduce hreduce
  obtain ⟨hanswered, hdown, -⟩ := Agenda.window?_eq_some.mp hwindow
  have hlength := length_contributors hanswered hdownload
  have hids := contributors_id hanswered hdownload
  have hcount : ending.contributors.length =
      (done.downloading definition.threads.toNat).length := by
    rw [← hids, List.length_map]
  have hle : ending.contributors.length ≤ definition.threads.toNat := by
    calc ending.contributors.length
      _ = (done.downloading definition.threads.toNat).length := hcount
      _ ≤ (List.range definition.threads.toNat).length := List.length_filter_le _ _
      _ = definition.threads.toNat := List.length_range
  exact
    { tracker := htold
      contributors := by
        rw [hids, ← Agenda.downloadingOf_said]
        apply List.filter_congr
        intro id _
        exact decide_eq_decide.mpr (hheard id true).symm
      threads := by
        have hbound : ending.contributors.length < 2 ^ 64 := by
          have := definition.threads.toNat_lt
          omega
        rw [← hlength]
        simp only [DownloadResult.ofWorkers, List.length_map]
        exact UInt64.toNat_ofNat_of_lt' hbound
      length_perThread := by
        rw [← hlength]
        exact List.length_map _
      length_slotsPerThread := by
        rw [← hlength]
        exact List.length_map _
      one_le := by
        rw [← hlength, hcount]
        exact List.length_pos_iff.mpr hdown
      le_threads := hlength ▸ hle
      complete := fun worker hmem =>
        complete_of_trustable htarget hdownload hwindow htimely htrust hmem
      perThread := List.map_congr_left fun worker hmem =>
        threadRate_eq_rateFrom htarget hdownload hwindow htimely htrust hmem
      slotsPerThread := rfl
      bandwidth := rfl }

end Reduced

namespace Download

variable {definition : DownloadDefinition} {target : Target} {surroundings : Surroundings}
  {conditions : Conditions} {result : DownloadResult}

theorem started_of_ok
    (hok : (run definition target surroundings conditions).outcome = .ok result) :
    ∃ address start, resolve target surroundings.resolution = .ok address ∧
      (carry definition surroundings (surroundings.network.accepts address)
        conditions.cancellation).windowStart = .ok start ∧
      DownloadResult.reduce definition start (carry definition surroundings
        (surroundings.network.accepts address) conditions.cancellation).reports = .ok result := by
  obtain ⟨hbudget, hcancel, address, hresolve⟩ := admitted_of_ok hok
  rw [(run_carried hresolve hbudget hcancel rfl).1] at hok
  cases hstart : (carry definition surroundings (surroundings.network.accepts address)
      conditions.cancellation).windowStart with
  | error e =>
    rw [hstart] at hok
    cases hok
  | ok start =>
    rw [hstart] at hok
    exact ⟨address, start, hresolve, hstart, hok⟩

theorem accepts_of_started (hworkers : 0 < definition.threads.toNat) {accepted : Bool}
    {cancellation : Cancellation} {start : Nat}
    (hstart : (carry definition surroundings accepted cancellation).windowStart = .ok start) :
    accepted = true := by
  cases accepted with
  | true => rfl
  | false =>
    rw [carry_refused hworkers surroundings cancellation] at hstart
    cases hstart

end Download

end Throughput
