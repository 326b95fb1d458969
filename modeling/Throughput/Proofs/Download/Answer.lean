import Throughput.Proofs.Download.Cutting
import Throughput.Proofs.Download.Traffic

/-!
# The answer of a download

What a run answers is its outcome, when it ends and what it has read until then. It follows from
what each worker reads: not from who reads it, nor from the order in which workers read that do so
on one instant.
-/

namespace Throughput

open Agenda

structure Answer where
  outcome : Except MeasureError DownloadResult
  time : Nat
  traffic : Nat

def DownloadEnd.answer (definition : DownloadDefinition) (ending : DownloadEnd) : Answer where
  outcome := ending.windowStart.bind fun start =>
    DownloadResult.reduce definition start ending.reports
  time := ending.time
  traffic := ending.traffic

/-- The result of workers with these rates and slots. -/
def DownloadResult.ofRates (rates : List Float) (slots : List (List Float)) : DownloadResult where
  threads := UInt64.ofNat rates.length
  bandwidth := rates.foldl (· + ·) 0.0
  perThread := rates
  slotsPerThread := slots

namespace Readings

variable (definition : DownloadDefinition) (window : Window) (readings : Readings)

/-- What a worker has to show that read this, if its number is zero. -/
def reported : Worker :=
  .reported 0 (readings.before window.stop)

def rate : Float :=
  DownloadResult.threadRate definition window.start (readings.reported window)

def slots : List Float :=
  timeSlices (readings.reported window).samples definition.slotLength.toNat

/-- The worker has sampled for long enough to be trusted. -/
def lasts : Bool :=
  (readings.reported window).coverage.isLongEnough window.start definition.targetTime.toNat

end Readings

/-- The outcome of a run that measures these workers in its window. -/
def DownloadDefinition.conclude (definition : DownloadDefinition) (window : Window)
    (workers : List Readings) : Except MeasureError DownloadResult :=
  if workers = [] then .error .transfer
  else if workers.all fun readings => readings.lasts definition window then
    .ok (.ofRates (workers.map fun readings => readings.rate definition window)
      (workers.map fun readings => readings.slots definition window))
  else .error .untrustworthy

namespace Agenda

variable (definition : DownloadDefinition) (agenda : Agenda)

/-- What the downloading workers read, in the order of their numbers. -/
def downloads (workers : Nat) (agenda : Agenda) : List Readings :=
  (agenda.downloading workers).map fun id => agenda.readings id

/-- The outcome of a run that nobody cancels. -/
def outcome : Except MeasureError DownloadResult :=
  definition.conclude (agenda.window definition) (agenda.downloads definition.threads.toNat)

/-- The answer of a run with this agenda. A cancellation that comes too late changes nothing. -/
def answer (cancelAt : Option Nat) : Answer :=
  match cancelAt.filter (· < agenda.endOf definition) with
  | some time => ⟨.error .cancelled, time, agenda.trafficUntil definition time⟩
  | none =>
    ⟨agenda.outcome definition, agenda.endOf definition,
      agenda.trafficUntil definition (agenda.endOf definition)⟩

end Agenda

/-! ### Reducing the reports -/

/-- Workers that have read the same differ in their numbers only. -/
theorem Worker.reported_renumbered (id : Nat) (readings : Readings) :
    reported id readings = { reported 0 readings with id } := by
  by_cases hbegun : readings = []
  · subst hbegun
    rfl
  · cases hdelivers : readings.delivers with
    | true => rw [reported_of_delivers hdelivers, reported_of_delivers hdelivers]
    | false => rw [reported_of_silent hbegun hdelivers, reported_of_silent hbegun hdelivers]

section Reduce

variable {definition : DownloadDefinition} {agenda : Agenda}
  (hanswered : agenda.Answered definition.threads.toNat)
  (htarget : 0 < definition.targetTime.toNat)
include hanswered htarget

theorem isSuccess_reported {id : Nat} (hid : id < definition.threads.toNat) :
    ((agenda.readings id).reported (agenda.window definition)).coverage.isSuccess =
      (agenda.readings id).delivers := by
  have hbegun := hanswered id hid
  have hfirst : (agenda.readings id).firstTime < (agenda.window definition).stop := by
    calc
      (agenda.readings id).firstTime ≤ agenda.settledAt definition.threads.toNat :=
        Finset.le_sup (f := fun id => (agenda.readings id).firstTime) (Finset.mem_range.mpr hid)
      _ < (agenda.window definition).stop := lt_stop_ofDefinition htarget _
  have hsame := Readings.delivers_before hbegun hfirst
  rw [Readings.reported]
  cases hdelivers : (agenda.readings id).delivers with
  | true =>
    rw [Worker.reported_of_delivers (hsame.trans hdelivers)]
    rfl
  | false =>
    rw [Worker.reported_of_silent (Readings.before_ne_nil hbegun hfirst) (hsame.trans hdelivers)]
    rfl

/-- The reports of all workers are reduced to what the downloading ones have read. -/
theorem reduce_reported (hdown : agenda.downloading definition.threads.toNat ≠ []) :
    DownloadResult.reduce definition (agenda.window definition).start
        ((List.range definition.threads.toNat).map fun id =>
          Worker.reported id ((agenda.readings id).before (agenda.window definition).stop)) =
      agenda.outcome definition := by
  let report (id : Nat) : Worker := (agenda.readings id).reported (agenda.window definition)
  have hreports : ((List.range definition.threads.toNat).map fun id =>
      Worker.reported id ((agenda.readings id).before (agenda.window definition).stop)) =
      (List.range definition.threads.toNat).map fun id => { report id with id } :=
    List.map_congr_left fun id _ => Worker.reported_renumbered id _
  have hdownloading : (List.range definition.threads.toNat).filter
      (fun id => (report id).coverage.isSuccess) = agenda.downloading definition.threads.toNat :=
    List.filter_congr fun id hmem =>
      isSuccess_reported hanswered htarget (List.mem_range.mp hmem)
  have hfinished : (((List.range definition.threads.toNat).map fun id =>
        { report id with id }).map Worker.coverage).filter Coverage.isSuccess =
      (agenda.downloading definition.threads.toNat).map fun id => (report id).coverage := by
    rw [← hdownloading, List.map_map, List.filter_map]
    rfl
  have hcontributors : (((List.range definition.threads.toNat).map fun id =>
        { report id with id }).filter fun worker => worker.state = .succeeded) =
      (agenda.downloading definition.threads.toNat).map fun id => { report id with id } := by
    rw [← hdownloading, List.filter_map]
    rfl
  have htrust : trustable (((List.range definition.threads.toNat).map fun id =>
        { report id with id }).map Worker.coverage) (agenda.window definition).start
        definition.targetTime.toNat =
      (agenda.downloads definition.threads.toNat).all fun readings =>
        readings.lasts definition (agenda.window definition) := by
    have hsome : (agenda.downloading definition.threads.toNat).isEmpty = false :=
      List.isEmpty_eq_false_iff.mpr hdown
    rw [trustable_eq, hfinished, downloads]
    simp only [List.isEmpty_map, hsome, List.all_map, Bool.not_false, Bool.true_and]
    rfl
  have hresult : DownloadResult.ofWorkers definition (agenda.window definition).start
        ((agenda.downloading definition.threads.toNat).map fun id => { report id with id }) =
      .ofRates
        ((agenda.downloads definition.threads.toNat).map fun readings =>
          readings.rate definition (agenda.window definition))
        ((agenda.downloads definition.threads.toNat).map fun readings =>
          readings.slots definition (agenda.window definition)) := by
    simp only [DownloadResult.ofWorkers, downloads, List.map_map]
    rfl
  have hmeasured : agenda.downloads definition.threads.toNat ≠ [] := by
    rwa [downloads, Ne, List.map_eq_nil_iff]
  rw [hreports, DownloadResult.reduce, htrust, hcontributors, hresult, outcome,
    DownloadDefinition.conclude, if_neg hmeasured]

end Reduce

namespace Download

section Advance

variable {definition : DownloadDefinition} {agenda : Agenda}
  (hcomplete : agenda.Complete definition.threads.toNat)
  (hworkers : 0 < definition.threads.toNat) (htarget : 0 < definition.targetTime.toNat)
include hcomplete hworkers htarget

theorem outcome_advance (now : Nat) :
    (((carried definition []).advance now agenda).answer definition).outcome =
      agenda.outcome definition := by
  obtain ⟨-, hstart, hreports⟩ := foreseen_advance hcomplete hworkers htarget now
  rw [DownloadEnd.answer]
  by_cases hsilent : agenda.downloading definition.threads.toNat = []
  · rw [if_pos hsilent] at hstart
    rw [hstart, outcome, downloads, hsilent]
    rfl
  · rw [if_neg hsilent] at hstart
    rw [hstart, hreports hsilent]
    exact reduce_reported hcomplete.answered htarget hsilent

/-- The answer of a run follows from its agenda. -/
theorem answer_advance (now : Nat) (cancelAt : Option Nat) :
    ((carried definition []).advance now (agenda.withCancel cancelAt)).answer definition =
      agenda.answer definition cancelAt := by
  have htime := (foreseen_advance hcomplete hworkers htarget now).time
  have htraffic := traffic_advance hcomplete hworkers htarget now
  have hwhole : ((carried definition []).advance now agenda).answer definition =
      ⟨agenda.outcome definition, agenda.endOf definition,
        agenda.trafficUntil definition (agenda.endOf definition)⟩ := by
    have hnever := htraffic none
    rw [withCancel, htime] at hnever
    rw [← outcome_advance hcomplete hworkers htarget now, ← hnever, ← htime]
    rfl
  cases cancelAt with
  | none => exact hwhole
  | some time =>
    have hcut := cutAt_advance hcomplete hworkers htarget now time
    rw [answer, Option.filter_some]
    by_cases hbefore : time < agenda.endOf definition
    · have hcancelled := hcut.cancelled (htime ▸ hbefore)
      have hread := htraffic (some time)
      rw [hcancelled] at hread ⊢
      rw [decide_eq_true hbefore, if_pos rfl]
      exact congrArg (Answer.mk (.error .cancelled) time) hread
    · have hkept := hcut.kept (htime ▸ Nat.not_lt.mp hbefore)
      rw [hkept, hwhole, decide_eq_false hbefore, if_neg Bool.false_ne_true]

end Advance

theorem answer_carry {definition : DownloadDefinition} (hbounded : definition.Bounded)
    (surroundings : Surroundings) (cancellation : Cancellation) :
    (carry definition surroundings true cancellation).answer definition =
      (surroundings.plan definition.threads.toNat).answer definition (cancelTime cancellation) := by
  rw [(carry_eq_advance hbounded.threads_pos surroundings cancellation).1, plan_eq_withCancel]
  exact answer_advance (surroundings.complete_plan _) hbounded.threads_pos
    hbounded.targetTime_pos _ _

end Download

/-- A run that got as far as its connections and had this answer. -/
def Answer.run (conditions : Conditions) (answer : Answer) : Run DownloadResult :=
  .close .download answer.outcome answer.time (conditions.budget.charge answer.traffic).1
    (Journal.ofObserved conditions.observed).start

namespace Download

/-- What a run leaves behind follows from its answer and its handshakes. -/
theorem ended_eq (definition : DownloadDefinition) (target : Target) (surroundings : Surroundings)
    (handshakes : List Handshake) (conditions : Conditions) (ending : DownloadEnd) :
    ended definition target surroundings handshakes conditions.budget conditions.observed ending =
      { (ending.answer definition).run conditions with
        accepted := handshakes.countP fun handshake =>
          handshake.accepted && handshake.time ≤ (ending.answer definition).time
        request :=
          if Handshake.failed handshakes ||
            (ending.answer definition).time < Handshake.latest handshakes then none
          else some (Request.text target
            (if definition.avoidCaches then some surroundings.clock else none)) } :=
  rfl

/-- A run whose connections would have had this answer. -/
def runWith (target : Target) (resolution : Resolution) (network : Network)
    (conditions : Conditions) (answer : Answer) : Run DownloadResult :=
  if conditions.budget.exhausted then .refused .download conditions
  else if conditions.cancellation = .beforeStart then (unstarted conditions .cancelled).toRun
  else
    match resolve target resolution with
    | .error e => (unstarted conditions e).toRun
    | .ok address =>
      if network.accepts address then answer.run conditions
      else Answer.run conditions ⟨.error .connection, 0, 0⟩

theorem toRun_eq {definition : DownloadDefinition} (hbounded : definition.Bounded)
    (target : Target) (surroundings : Surroundings) (conditions : Conditions) :
    (run definition target surroundings conditions).toRun =
      runWith target surroundings.resolution surroundings.network conditions
        ((surroundings.plan definition.threads.toNat).answer definition
          (cancelTime conditions.cancellation)) := by
  rw [run, runDialed, runWith, ← answer_carry hbounded]
  split
  · rfl
  · split
    · rfl
    · cases resolve target surroundings.resolution with
      | error e => rfl
      | ok address =>
        dsimp only
        cases surroundings.network.accepts address with
        | true => rfl
        | false =>
          have htraffic := traffic_refused hbounded.threads_pos surroundings conditions.cancellation
          rw [ended_eq, ← carry, DownloadEnd.answer, htraffic,
            carry_eq_refused hbounded.threads_pos]
          rfl

/-- The answer of its connections either has no part in a run, which then fails, or is all of it. -/
theorem runWith_cases (target : Target) (resolution : Resolution) (network : Network)
    (conditions : Conditions) :
    (∃ failed e, failed.outcome = .error e ∧
        ∀ answer, runWith target resolution network conditions answer = failed) ∨
      ∀ answer, runWith target resolution network conditions answer = answer.run conditions := by
  simp only [runWith]
  split
  · exact Or.inl ⟨_, _, rfl, fun _ => rfl⟩
  · split
    · exact Or.inl ⟨_, _, rfl, fun _ => rfl⟩
    · cases resolve target resolution with
      | error e => exact Or.inl ⟨_, e, rfl, fun _ => rfl⟩
      | ok address =>
        dsimp only
        cases network.accepts address with
        | true => exact Or.inr fun _ => rfl
        | false => exact Or.inl ⟨_, .connection, rfl, fun _ => rfl⟩

end Download

end Throughput
