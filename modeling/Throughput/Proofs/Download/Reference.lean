import Mathlib
import Throughput.Proofs.Definition
import Throughput.Proofs.Download.Carry
import Throughput.Proofs.Download.Forecast

/-!
# Reference semantics of a download

What a run does, told from the scripts of its servers alone. Each worker has its first-byte outcome.
The latest of these opens the window, which lasts its time unless all downloading workers are closed
before. What the workers have sampled by then is the result, if it is to be trusted.
-/

namespace Throughput

open Agenda

namespace Surroundings

def readings (surroundings : Surroundings) (id : Nat) : Readings :=
  .ofActions (surroundings.scripts[id]?.getD [])

def firstByte (surroundings : Surroundings) (id : Nat) : FirstByte :=
  .ofReadings surroundings.firstByteTimeout (surroundings.readings id)

/-- The workers whose first byte comes in time, in ascending order. -/
def downloading (surroundings : Surroundings) (workers : Nat) : List Nat :=
  (List.range workers).filter fun id => (surroundings.firstByte id).isOk

def settledAt (surroundings : Surroundings) (workers : Nat) : Nat :=
  (Finset.range workers).sup fun id => (surroundings.firstByte id).time

/-- When the last downloading worker is closed, if they all are. -/
def closedAt (surroundings : Surroundings) (workers : Nat) : Nat :=
  (Finset.range workers).sup fun id =>
    if (surroundings.firstByte id).isOk then (surroundings.readings id).closingTime else 0

def window (surroundings : Surroundings) (definition : DownloadDefinition) : Window :=
  .ofDefinition definition (surroundings.settledAt definition.threads.toNat)

def endOf (surroundings : Surroundings) (definition : DownloadDefinition) : Nat :=
  let workers := definition.threads.toNat
  if surroundings.downloading workers = [] then surroundings.settledAt workers
  else if ∀ id ∈ surroundings.downloading workers, (surroundings.readings id).closes then
    min (surroundings.window definition).stop
      (max (surroundings.settledAt workers) (surroundings.closedAt workers))
  else (surroundings.window definition).stop

/-- What a worker has to show for a run whose window has ended. -/
def report (surroundings : Surroundings) (definition : DownloadDefinition) (id : Nat) : Worker :=
  match surroundings.firstByte id with
  | .ok time =>
    { id
      state := .succeeded
      holdsStream := false
      started := some 0
      firstByte := some time
      samples := ((surroundings.readings id).before (surroundings.window definition).stop).samples }
  | .failed _ =>
    { id
      state := .failed
      holdsStream := false
      started := some 0
      firstByte := none
      samples := [] }

def reports (surroundings : Surroundings) (definition : DownloadDefinition) : List Worker :=
  (List.range definition.threads.toNat).map (surroundings.report definition)

def plan (surroundings : Surroundings) (workers : Nat) : Agenda :=
  .plan (List.range workers) surroundings.firstByteTimeout (surroundings.scripts.take workers) none

section Plan

variable {surroundings : Surroundings} {workers id : Nat} (hid : id < workers)
include hid

theorem readings_plan_eq :
    (surroundings.plan workers).readings id ≠ [] ∧
      ((surroundings.plan workers).readings id).delivers = (surroundings.firstByte id).isOk ∧
      ((surroundings.plan workers).readings id).firstTime = (surroundings.firstByte id).time ∧
      ((surroundings.plan workers).readings id).closes = (surroundings.readings id).closes ∧
      ((surroundings.plan workers).readings id).closingTime =
        (surroundings.readings id).closingTime ∧
      ∀ keep, Readings.samples (((surroundings.plan workers).readings id).filter keep) =
        Readings.samples ((surroundings.readings id).filter keep) := by
  obtain ⟨early, late, hscript, hplan, hearly, hlate⟩ :=
    Agenda.readings_plan surroundings.firstByteTimeout (surroundings.scripts.take workers) none
      List.nodup_range (List.mem_range.mpr hid)
  rw [List.getElem?_take_of_lt hid] at hscript
  have hfirst := firstByte_merged hearly hlate
  rw [plan, hplan, firstByte, readings, hscript]
  refine ⟨by simp, hfirst.1, hfirst.2, closes_merged, closingTime_merged, samples_filter_merged⟩

end Plan

section Foretold

variable (surroundings : Surroundings) (workers : Nat)

theorem complete_plan : (surroundings.plan workers).Complete workers :=
  Agenda.complete_plan ..

theorem downloading_plan :
    (surroundings.plan workers).downloading workers = surroundings.downloading workers :=
  List.filter_congr fun _ hmem => (readings_plan_eq (List.mem_range.mp hmem)).2.1

theorem settledAt_plan :
    (surroundings.plan workers).settledAt workers = surroundings.settledAt workers :=
  Finset.sup_congr rfl fun _ hmem => (readings_plan_eq (Finset.mem_range.mp hmem)).2.2.1

theorem finishedAt_plan :
    (surroundings.plan workers).finishedAt workers =
      max (surroundings.settledAt workers) (surroundings.closedAt workers) := by
  rw [finishedAt, settledAt_plan]
  congr 1
  refine Finset.sup_congr rfl fun id hmem => ?_
  obtain ⟨-, hdelivers, -, -, hclosing, -⟩ :=
    surroundings.readings_plan_eq (Finset.mem_range.mp hmem)
  rw [hdelivers, hclosing]

variable (definition : DownloadDefinition)

theorem endOf_plan :
    (surroundings.plan definition.threads.toNat).endOf definition =
      surroundings.endOf definition := by
  have hcloses : (∀ id ∈ surroundings.downloading definition.threads.toNat,
        ((surroundings.plan definition.threads.toNat).readings id).closes = true) ↔
      ∀ id ∈ surroundings.downloading definition.threads.toNat,
        (surroundings.readings id).closes = true := by
    refine forall₂_congr fun id hmem => ?_
    rw [(readings_plan_eq (List.mem_range.mp (List.mem_filter.mp hmem).1)).2.2.2.1]
  simp only [Agenda.endOf, endOf, window, downloading_plan, settledAt_plan, finishedAt_plan,
    hcloses]

theorem firstByte_time_lt_stop (htarget : 0 < definition.targetTime.toNat) {id : Nat}
    (hid : id < definition.threads.toNat) :
    (surroundings.firstByte id).time < (surroundings.window definition).stop := by
  calc
    (surroundings.firstByte id).time ≤ surroundings.settledAt definition.threads.toNat :=
      Finset.le_sup (f := fun id => (surroundings.firstByte id).time) (Finset.mem_range.mpr hid)
    _ < (surroundings.window definition).stop := lt_stop_ofDefinition htarget _

theorem reported_plan (htarget : 0 < definition.targetTime.toNat) {id : Nat}
    (hid : id < definition.threads.toNat) :
    Worker.reported id (((surroundings.plan definition.threads.toNat).readings id).before
      (surroundings.window definition).stop) = surroundings.report definition id := by
  obtain ⟨hbegun, hdelivers, hfirst, -, -, hsamples⟩ := surroundings.readings_plan_eq hid
  have hlt := surroundings.firstByte_time_lt_stop definition htarget hid
  rw [← hfirst] at hlt
  rw [← Readings.delivers_before hbegun hlt] at hdelivers
  cases hbyte : surroundings.firstByte id with
  | ok time =>
    rw [hbyte] at hdelivers hfirst
    rw [Worker.reported_of_delivers hdelivers, Readings.firstTime_before hbegun hlt, hfirst,
      Readings.before, hsamples, report, hbyte]
    rfl
  | failed time =>
    rw [hbyte] at hdelivers
    rw [Worker.reported_of_silent (Readings.before_ne_nil hbegun hlt) hdelivers, report, hbyte]

end Foretold

end Surroundings

/-- A run that does what its servers make it do. -/
structure DownloadRun.Conforms (run : DownloadRun) (definition : DownloadDefinition)
    (surroundings : Surroundings) : Prop where
  transfer : run.outcome = .error .transfer ↔
    surroundings.downloading definition.threads.toNat = []
  elapsed : run.elapsed = surroundings.endOf definition
  trusted : surroundings.downloading definition.threads.toNat ≠ [] →
    trustable ((surroundings.reports definition).map Worker.coverage)
      (surroundings.window definition).start definition.targetTime.toNat = true →
    run.outcome = .ok (DownloadResult.ofWorkers definition (surroundings.window definition).start
      ((surroundings.reports definition).filter fun worker => worker.state = .succeeded))
  untrusted : surroundings.downloading definition.threads.toNat ≠ [] →
    trustable ((surroundings.reports definition).map Worker.coverage)
      (surroundings.window definition).start definition.targetTime.toNat = false →
    run.outcome = .error .untrustworthy

namespace Download

variable {definition : DownloadDefinition} {target : Target} {surroundings : Surroundings}
  {conditions : Conditions} {address : Address.Socket} {others : List Address.Socket}

theorem carry_foreseen (surroundings : Surroundings) (hbounded : definition.Bounded) :
    Foreseen definition (surroundings.plan definition.threads.toNat)
      (carry definition surroundings true .never) := by
  rw [(carry_eq_advance hbounded.threads_pos surroundings .never).1]
  exact foreseen_advance (surroundings.complete_plan _) hbounded.threads_pos
    hbounded.targetTime_pos _

theorem run_eq (definition : DownloadDefinition) (target : Target)
    (hresolved : surroundings.resolution = .ok (address :: others))
    (haccepts : surroundings.network.accepts address = true)
    (hbudget : conditions.budget.exhausted = false) (hcancel : conditions.cancellation = .never) :
    (run definition target surroundings conditions).outcome =
        ((carry definition surroundings true .never).windowStart.bind fun start =>
          DownloadResult.reduce definition start
            (carry definition surroundings true .never).reports) ∧
      (run definition target surroundings conditions).elapsed =
        (carry definition surroundings true .never).time := by
  have hresolve : resolve target surroundings.resolution = .ok address := by
    rw [hresolved, resolve]
  have hstarted : conditions.cancellation ≠ .beforeStart := by
    rw [hcancel]
    exact Cancellation.noConfusion
  obtain ⟨houtcome, helapsed, -⟩ :=
    run_carried hresolve hbudget hstarted (by rw [haccepts, hcancel])
  exact ⟨houtcome, helapsed⟩

end Download

end Throughput
