import Throughput.Proofs.Download.Shape
import Throughput.Proofs.Rate

/-!
# The rates of a result

The window of a worker that contributes is never empty. Its rate is positive if its samples there
span some time. A worker that has all its samples there from one instant is rated zero.
-/

namespace Throughput

namespace Worker

/-- The samples that a worker is rated by. -/
def inWindow (worker : Worker) (definition : DownloadDefinition) (start : Nat) : List Sample :=
  windowSamples worker.samples (start - worker.coverage.started)
    (start - worker.coverage.started + Span.ofMillis definition.targetTime.toNat)

theorem threadRate_eq_rateOf (worker : Worker) (definition : DownloadDefinition) (start : Nat) :
    DownloadResult.threadRate definition start worker = rateOf (worker.inWindow definition start) :=
  averageThroughput_eq_rateOf _ _ _

/-- What the rate of a worker says whose samples in the window reach from `first` to `last`. -/
structure Rated (worker : Worker) (definition : DownloadDefinition) (start : Nat)
    (first last : Sample) : Prop where
  begins : (worker.inWindow definition start).head? = some first
  ends : (worker.inWindow definition start).getLast? = some last
  latest : worker.samples.getLast? = some last
  received : 0 < byteSum (worker.inWindow definition start)
  ordered : first.elapsed ≤ last.elapsed
  zero : DownloadResult.threadRate definition start worker = 0.0 ↔ first.elapsed = last.elapsed
  positive : 0.0 < DownloadResult.threadRate definition start worker ↔
    first.elapsed < last.elapsed

end Worker

section Rated

variable {definition : DownloadDefinition} {done : Agenda} {ending : DownloadEnd} {window : Window}

theorem span_lt {first last : Sample} (hbounded : definition.Bounded)
    (hwindow : done.window? definition = some window)
    (hfirst : (window.start : Int) ≤ first.elapsed) (hlast : last.elapsed < window.stop) :
    last.elapsed - first.elapsed < 2 ^ 53 := by
  obtain ⟨-, -, hopened⟩ := Agenda.window?_eq_some.mp hwindow
  have hstop : window.stop = window.start + Span.ofMillis definition.targetTime.toNat := by
    rw [hopened, Window.ofDefinition]
  have htarget : Span.ofMillis definition.targetTime.toNat ≤ 60000 * nanosPerMilli :=
    Nat.mul_le_mul_right _ hbounded.targetTime_le
  have hnanos : 60000 * nanosPerMilli < 2 ^ 53 := by decide
  omega

theorem sampled_in_order (hascending : Ascending Appointment.time done)
    (hanswered : done.Answered definition.threads.toNat)
    (hdownload : ending.download = .carried definition done) {worker : Worker}
    (hmem : worker ∈ ending.contributors) :
    worker.coverage.started = 0 ∧
      (worker.samples.Pairwise fun left right => left.elapsed ≤ right.elapsed) ∧
      ∀ sample ∈ worker.samples, 0 < sample.bytes := by
  obtain ⟨id, -, rfl⟩ := exists_of_mem_contributors hanswered hdownload hmem
  exact ⟨rfl, Readings.pairwise_samples (Agenda.ascending_readings hascending id),
    fun _ => Readings.bytes_pos_of_mem_samples⟩

variable (hbounded : definition.Bounded) (hascending : Ascending Appointment.time done)
  (hdownload : ending.download = .carried definition done)
  (hwindow : done.window? definition = some window)
  (htimely : ∀ appointment ∈ done, appointment.time < window.stop)
  (htrust : trustable (ending.reports.map Worker.coverage) window.start
    definition.targetTime.toNat = true)
include hbounded hascending hdownload hwindow htimely htrust

theorem exists_rated {worker : Worker} (hmem : worker ∈ ending.contributors) :
    ∃ first last, worker.Rated definition window.start first last := by
  obtain ⟨hsame, last, hlatest, hlate⟩ := complete_of_trustable hbounded.targetTime_pos hdownload
    hwindow htimely htrust hmem
  change worker.inWindow definition window.start = _ at hsame
  obtain ⟨hanswered, -, -⟩ := Agenda.window?_eq_some.mp hwindow
  obtain ⟨hstarted, hpairwise, hpositive⟩ :=
    sampled_in_order hascending hanswered hdownload hmem
  have hbytes : ∀ sample ∈ worker.samplesFrom window.start, 0 < sample.bytes :=
    fun sample hsample => hpositive sample (List.mem_of_mem_filter hsample)
  have hend : (worker.samplesFrom window.start).getLast? = some last :=
    Worker.getLast?_samplesFrom hlatest hlate
  obtain ⟨first, others, hcons⟩ := List.exists_cons_of_ne_nil (List.ne_nil_of_mem hlate)
  have hhead : (worker.samplesFrom window.start).head? = some first := by
    rw [hcons]
    rfl
  have horder : first.elapsed ≤ last.elapsed := by
    have hwhole : (first :: others).Pairwise fun left right => left.elapsed ≤ right.elapsed :=
      hcons ▸ hpairwise.filter _
    rcases List.mem_cons.mp (hcons ▸ hlate) with rfl | hlater
    · exact Int.le_refl _
    · exact (List.pairwise_cons.mp hwhole).1 last hlater
  have hsmall : last.elapsed - first.elapsed < 2 ^ 53 := by
    have hopen := of_decide_eq_true (List.mem_filter.mp (List.mem_of_head? hhead)).2
    rw [hstarted, Int.sub_zero] at hopen
    have hstop := sampled_before hanswered hdownload htimely hmem last
      (List.mem_of_getLast? hlatest)
    exact span_lt hbounded hwindow hopen hstop
  have hrate : DownloadResult.threadRate definition window.start worker =
      rateOf (worker.samplesFrom window.start) := by
    rw [Worker.threadRate_eq_rateOf, hsame]
  refine ⟨first, last, ?_⟩
  exact
    { begins := hsame ▸ hhead
      ends := hsame ▸ hend
      latest := hlatest
      received := hsame ▸ byteSum_pos (List.ne_nil_of_mem hlate) hbytes
      ordered := horder
      zero := hrate ▸ rateOf_eq_zero_iff hhead hend hbytes horder hsmall
      positive := hrate ▸ rateOf_pos_iff hhead hend hbytes horder hsmall }

end Rated

namespace Download

variable {definition : DownloadDefinition} {target : Target} {surroundings : Surroundings}
  {conditions : Conditions} {result : DownloadResult}

theorem outcome_of_trusted {address : Address.Socket} {others : List Address.Socket} {start : Nat}
    {coverage : List Coverage} (target : Target)
    (hresolved : surroundings.resolution = .ok (address :: others))
    (haccepts : surroundings.network.accepts address = true)
    (hbudget : conditions.budget.exhausted = false) (hcancel : conditions.cancellation = .never)
    (hstart : (carry definition surroundings true .never).windowStart = .ok start)
    (hcoverage : (carry definition surroundings true .never).reports.map Worker.coverage = coverage)
    (htrust : trustable coverage start definition.targetTime.toNat = true) :
    (run definition target surroundings conditions).outcome =
      .ok (.ofWorkers definition start (carry definition surroundings true .never).contributors) := by
  subst hcoverage
  rw [(run_eq definition target hresolved haccepts hbudget hcancel).1, hstart]
  exact if_pos htrust

end Download

end Throughput
