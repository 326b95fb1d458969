import Mathlib
import Throughput.Proofs.Budget
import Throughput.Proofs.Download.Reach
import Throughput.Proofs.Download.Reference

/-!
# What a download is charged

The traffic of a run, told from the scripts of its servers: everything that they send while the run
lasts, up to the end of each stream, to the workers whose first byte comes in time.
-/

namespace Throughput

open Agenda

namespace Action

/-- The server ends its stream. -/
def ends (action : Action) : Bool :=
  match action.deed with
  | .send _ => false
  | .close | .reset => true

def size (action : Action) : Nat :=
  match action.deed with
  | .send bytes => bytes
  | .close | .reset => 0

end Action

namespace Worker

theorem sum_portions (bytes : Nat) : (portions bytes).sum = bytes := by
  have hdivided : bytes / bufferSize * bufferSize + bytes % bufferSize = bytes :=
    Nat.div_add_mod' bytes bufferSize
  simp only [portions, List.sum_append, List.sum_replicate_nat]
  split <;> simp only [List.sum_nil, List.sum_cons] <;> omega

example : portions 150000 = [65536, 65536, 18928] := by decide

theorem pos_of_mem_portions {bytes count : Nat} (hmem : count ∈ portions bytes) : 0 < count := by
  rcases List.mem_append.mp hmem with hfull | hlast
  · rw [List.eq_of_mem_replicate hfull]
    exact Nat.zero_lt_succ _
  · split at hlast
    · cases hlast
    · next hleft =>
      rw [List.mem_singleton.mp hlast]
      exact Nat.pos_of_ne_zero hleft

end Worker

/-- Reads that all bring something leave the stream open, and each of them takes a sample. -/
theorem totalBytes_samples_bytes (time : Nat) {counts : List Nat}
    (hpos : ∀ count ∈ counts, 0 < count) :
    Readings.closes (counts.map fun count => ⟨time, .bytes count⟩) = false ∧
      totalBytes (Readings.samples (counts.map fun count => ⟨time, .bytes count⟩)) =
        counts.sum := by
  induction counts with
  | nil => exact ⟨rfl, rfl⟩
  | cons first rest ih =>
    obtain ⟨hfirst, hrest⟩ := List.forall_mem_cons.mp hpos
    obtain ⟨hopen, hbytes⟩ := ih hrest
    obtain ⟨count, rfl⟩ := Nat.exists_eq_add_one_of_ne_zero hfirst.ne'
    constructor
    · exact hopen
    · rw [List.map_cons, ← List.singleton_append, Readings.samples_append, totalBytes_append,
        List.sum_cons, ← hbytes]
      rfl

/-- However many reads a send takes, every byte of it is in one of their samples. -/
theorem totalBytes_samples_send (time bytes : Nat) :
    Readings.closes (Action.readings ⟨time, .send bytes⟩) = false ∧
      totalBytes (Readings.samples (Action.readings ⟨time, .send bytes⟩)) = bytes := by
  have hreadings : Action.readings ⟨time, .send bytes⟩ =
      (Worker.portions bytes).map fun count => ⟨time, .bytes count⟩ := List.map_map
  rw [hreadings]
  obtain ⟨hopen, hbytes⟩ := totalBytes_samples_bytes time
    fun count => @Worker.pos_of_mem_portions bytes count
  exact ⟨hopen, hbytes.trans (Worker.sum_portions bytes)⟩

/-- Every byte that is sent before the end of the stream is in one sample. -/
theorem totalBytes_samples_read (actions : List Action) :
    totalBytes (Readings.samples (actions.flatMap Action.readings)) =
      ((actions.takeWhile fun action => !action.ends).map Action.size).sum := by
  induction actions with
  | nil => rfl
  | cons action rest ih =>
    obtain ⟨time, deed⟩ := action
    cases deed with
    | send bytes =>
      have hopen : Action.ends ⟨time, .send bytes⟩ = false := rfl
      obtain ⟨hstill, hbytes⟩ := totalBytes_samples_send time bytes
      rw [List.takeWhile_cons_of_pos (by simp [hopen]), List.map_cons, List.sum_cons, ← ih,
        List.flatMap_cons, Readings.samples_append, hstill, totalBytes_append, hbytes]
      rfl
    | close => rfl
    | reset => rfl

theorem filter_ofActions (reached : Nat → Bool) (actions : List Action) :
    (Readings.ofActions actions).filter (fun timed => reached timed.time) =
      ((sortBy Action.time actions).filter fun action => reached action.time).flatMap
        Action.readings :=
  filter_keys_flatMap Action.time_of_mem_readings reached _

namespace Surroundings

variable (surroundings : Surroundings) (definition : DownloadDefinition) (elapsed : Nat)

/-- What a worker receives from its server, in order of time. -/
def received (id : Nat) : List Action :=
  if (surroundings.firstByte id).isOk then
    ((sortBy Action.time (surroundings.scripts[id]?.getD [])).filter fun action =>
      (surroundings.window definition).reaches elapsed action.time).takeWhile fun action =>
        !action.ends
  else []

def traffic : Nat :=
  (((List.range definition.threads.toNat).flatMap
    (surroundings.received definition elapsed)).map Action.size).sum

/-- What a run can be charged for that has resolved its server to an address. -/
def trafficFrom (address : Address.Socket) : Nat :=
  if surroundings.network.accepts address then surroundings.traffic definition elapsed else 0

variable {surroundings definition}

theorem sum_size_received (id : Nat) :
    ((surroundings.received definition elapsed id).map Action.size).sum =
      if (surroundings.firstByte id).isOk then
        totalBytes (Readings.samples ((surroundings.readings id).filter fun timed =>
          (surroundings.window definition).reaches elapsed timed.time))
      else 0 := by
  rw [received, readings, filter_ofActions, totalBytes_samples_read]
  split <;> rfl

theorem traffic_eq_sum_received :
    surroundings.traffic definition elapsed =
      ((List.range definition.threads.toNat).map fun id =>
        ((surroundings.received definition elapsed id).map Action.size).sum).sum := by
  rw [traffic, List.map_flatMap, List.flatMap, List.sum_flatten, List.map_map]
  rfl

/-- The first-byte timeout brings nothing. -/
theorem traffic_plan {id : Nat} (hid : id < definition.threads.toNat) :
    Readings.traffic (((surroundings.plan definition.threads.toNat).readings id).filter
        fun timed => (surroundings.window definition).reaches elapsed timed.time) =
      ((surroundings.received definition elapsed id).map Action.size).sum := by
  obtain ⟨-, hdelivers, -, -, -, hsamples⟩ := surroundings.readings_plan_eq hid
  have hascending : Ascending TimedReading.time
      ((surroundings.plan definition.threads.toNat).readings id) :=
    ascending_readings (ascending_plan ..) id
  rw [sum_size_received, Readings.traffic_reached Window.reaches_down hascending, hdelivers,
    hsamples]

end Surroundings

theorem DownloadEnd.traffic_eq_sum (ending : DownloadEnd) :
    ending.traffic = (ending.reports.map fun worker => totalBytes worker.samples).sum := by
  rw [traffic, List.sum, List.foldr_map]

/-- What has been read when a run has lasted so long. -/
def Readings.trafficUntil (window : Window) (readings : Readings) (elapsed : Nat) : Nat :=
  Readings.traffic (readings.filter fun timed => window.reaches elapsed timed.time)

namespace Agenda

variable (definition : DownloadDefinition) (agenda : Agenda)

def window : Window :=
  .ofDefinition definition (agenda.settledAt definition.threads.toNat)

def trafficUntil (elapsed : Nat) : Nat :=
  ((List.range definition.threads.toNat).map fun id =>
    (agenda.readings id).trafficUntil (agenda.window definition) elapsed).sum

end Agenda

namespace Download

variable {definition : DownloadDefinition} {target : Target} {surroundings : Surroundings}
  {conditions : Conditions} {address : Address.Socket}

theorem traffic_carried {done : Agenda} {ending : DownloadEnd}
    (hdownload : ending.download = .carried definition done) :
    ending.traffic =
      ((List.range definition.threads.toNat).map fun id => (done.readings id).traffic).sum := by
  obtain ⟨download, time, windowStart⟩ := ending
  subst hdownload
  simp only [DownloadEnd.traffic_eq_sum, reports_carried, List.map_map, Function.comp_def,
    Readings.totalBytes_reported]

theorem traffic_advance {agenda : Agenda} (hcomplete : agenda.Complete definition.threads.toNat)
    (hworkers : 0 < definition.threads.toNat) (htarget : 0 < definition.targetTime.toNat)
    (now : Nat) (cancelAt : Option Nat) :
    ((carried definition []).advance now (agenda.withCancel cancelAt)).traffic =
      agenda.trafficUntil definition
        ((carried definition []).advance now (agenda.withCancel cancelAt)).time := by
  have hascending := hcomplete.ascending_withCancel cancelAt
  have hreadings := hcomplete.readings_withCancel cancelAt
  obtain ⟨done, rest, hagenda, hends, -⟩ :=
    exists_ends hworkers htarget now hascending (hcomplete.plain_withCancel cancelAt)
  have hanswered : Answered definition.threads.toNat (agenda.withCancel cancelAt) :=
    (answered_congr fun id _ => hreadings id).mpr hcomplete.answered
  have hsettled := settledAt_congr fun id (_ : id < definition.threads.toNat) => hreadings id
  generalize (carried definition []).advance now (agenda.withCancel cancelAt) = ending at hends ⊢
  rw [hagenda] at hascending hanswered hsettled
  obtain ⟨hdownload, hreached⟩ := hends.reached htarget hascending hanswered
    fun time after hrest => hcomplete.lt_of_after_cancel (hrest ▸ hagenda)
  rw [traffic_carried hdownload, trafficUntil]
  congr 1
  refine List.map_congr_left fun id hmem => ?_
  rw [hreached.traffic (List.mem_range.mp hmem), hsettled, ← hagenda, hreadings]
  rfl

/-- Nothing has been read before the requests. -/
theorem traffic_greeted (definition : DownloadDefinition) (log : List WorkerEvent) (time : Nat)
    (windowStart : Except MeasureError Nat) :
    DownloadEnd.traffic ⟨greeted definition log, time, windowStart⟩ = 0 := by
  rw [DownloadEnd.traffic_eq_sum]
  refine List.sum_eq_zero fun bytes hmem => ?_
  simp only [DownloadEnd.reports, greeted, staged, List.map_map, List.mem_map] at hmem
  obtain ⟨id, -, rfl⟩ := hmem
  simp only [Function.comp_apply, Task.afterLog]
  split
  · rfl
  · split <;> rfl

theorem traffic_refused (hworkers : 0 < definition.threads.toNat) (surroundings : Surroundings)
    (cancellation : Cancellation) :
    (carry definition surroundings false cancellation).traffic = 0 := by
  rw [carry_eq_refused hworkers, traffic_greeted]

/-- What the workers of a run have sampled is what their servers sent while it lasted. -/
theorem traffic_carry (hbounded : definition.Bounded) (surroundings : Surroundings)
    (cancellation : Cancellation) :
    (carry definition surroundings true cancellation).traffic =
      surroundings.traffic definition
        (carry definition surroundings true cancellation).time := by
  have hcarry := (carry_eq_advance hbounded.threads_pos surroundings cancellation).1
  rw [plan_eq_withCancel] at hcarry
  have htraffic := traffic_advance (surroundings.complete_plan _) hbounded.threads_pos
    hbounded.targetTime_pos (timeAfter 0 (opening definition.threads.toNat true))
    (cancelTime cancellation)
  rw [Surroundings.plan, ← hcarry] at htraffic
  rw [htraffic, Surroundings.traffic_eq_sum_received, trafficUntil]
  congr 1
  refine List.map_congr_left fun id hmem => ?_
  have hsettled := surroundings.settledAt_plan definition.threads.toNat
  rw [Surroundings.plan] at hsettled
  rw [Readings.trafficUntil, Agenda.window, hsettled]
  exact Surroundings.traffic_plan _ (List.mem_range.mp hmem)

section Run

variable (hvalid : definition.validate = .ok target)
  (hresolve : resolve target surroundings.resolution = .ok address)
  (hbudget : conditions.budget.exhausted = false)
  (hcancel : conditions.cancellation ≠ .beforeStart)
include hvalid hresolve hbudget hcancel

theorem run_budget :
    (run definition target surroundings conditions).budget =
      (conditions.budget.charge (surroundings.trafficFrom definition
        (run definition target surroundings conditions).elapsed address)).1 := by
  have hbounded := DownloadDefinition.bounded_of_validate hvalid
  obtain ⟨-, helapsed, hcharged⟩ := @run_carried definition target surroundings conditions address
    hresolve hbudget hcancel _ rfl
  rw [hcharged, helapsed, Surroundings.trafficFrom]
  cases surroundings.network.accepts address with
  | true => rw [traffic_carry hbounded, if_pos rfl]
  | false => rw [traffic_refused hbounded.threads_pos, if_neg Bool.false_ne_true]

/-- A run that got as far as its connections is charged for exactly what their servers sent while it
lasted, however it ends. -/
theorem run_charges_received :
    (run definition target surroundings conditions).budget =
        (conditions.budget.charge (surroundings.trafficFrom definition
          (run definition target surroundings conditions).elapsed address)).1 ∧
      ∀ allowance, conditions.budget = .limited allowance →
        surroundings.trafficFrom definition
          (run definition target surroundings conditions).elapsed address ≤ allowance.remaining →
        (run definition target surroundings conditions).budget =
          .limited (allowance.withUsed (allowance.used + surroundings.trafficFrom definition
            (run definition target surroundings conditions).elapsed address)) := by
  have hcharged := run_budget hvalid hresolve hbudget hcancel
  refine ⟨hcharged, fun allowance hlimited hfits => ?_⟩
  rw [hcharged, hlimited]
  exact Budget.charge_limited_of_le hfits

end Run

/-- Of four servers one sends on until the run is cancelled, one closes its stream early, one resets
it at once, and one is too late. -/
theorem run_charges_received_cancelled :
    let definition : DownloadDefinition :=
      { DownloadDefinition.initial with url := "http://[::1]/", threads := 4 }
    let surroundings : Surroundings :=
      ⟨.ok [.v4 ⟨127, 0, 0, 1⟩ 80], .ideal,
        [[⟨100000000, .send 1000⟩, ⟨3000000000, .send 500⟩, ⟨5000000000, .send 90000⟩],
          [⟨50000000, .send 200⟩, ⟨200000000, .close⟩, ⟨300000000, .send 999⟩],
          [⟨50, .reset⟩],
          [⟨1500000000, .send 700⟩]],
        1000000000, ⟨2024, 1, 1, 12, 0, 0, 0⟩⟩
    let conditions : Conditions := ⟨.limited (.ofAvailable 10000), .after 4000000000, true⟩
    let cancelled := run definition ⟨"::1", 80, "/"⟩ surroundings conditions
    (definition.validate = .ok ⟨"::1", 80, "/"⟩ ∧
        resolve ⟨"::1", 80, "/"⟩ surroundings.resolution = .ok (.v4 ⟨127, 0, 0, 1⟩ 80) ∧
        conditions.budget.exhausted = false ∧ conditions.cancellation ≠ .beforeStart) ∧
      cancelled.outcome = .error .cancelled ∧
      cancelled.budget = .limited ((Allowance.ofAvailable 10000).withUsed 1700) := by
  intro definition surroundings conditions cancelled
  have hvalid : definition.validate = .ok ⟨"::1", 80, "/"⟩ := by cbv
  have hcancel : conditions.cancellation ≠ .beforeStart := Cancellation.noConfusion
  have hending : (carry definition surroundings true (.after 4000000000)).time = 4000000000 ∧
      (carry definition surroundings true (.after 4000000000)).windowStart =
        .error .cancelled := by
    dsimp only [definition, surroundings]
    constructor <;> cbv
  have hworkers : definition.threads.toNat = 4 := by cbv
  have hsettled : surroundings.settledAt 4 = 1000000000 := by
    simp only [Surroundings.settledAt, Finset.range_add_one, Finset.range_zero,
      Finset.sup_insert, Finset.sup_empty]
    dsimp only [surroundings]
    cbv
  have hwindow : surroundings.window definition = ⟨3000000000, 13000000000⟩ := by
    rw [Surroundings.window, hworkers, hsettled]
    cbv
  have hreceived : (List.range 4).flatMap (surroundings.received definition 4000000000) =
      [⟨100000000, .send 1000⟩, ⟨3000000000, .send 500⟩, ⟨50000000, .send 200⟩] := by
    unfold Surroundings.received
    rw [hwindow]
    dsimp only [surroundings]
    cbv
  have htraffic : surroundings.trafficFrom definition 4000000000 (.v4 ⟨127, 0, 0, 1⟩ 80) =
      1700 := by
    have haccepts : surroundings.network.accepts (.v4 ⟨127, 0, 0, 1⟩ 80) = true := rfl
    rw [Surroundings.trafficFrom, if_pos haccepts, Surroundings.traffic, hworkers, hreceived]
    rfl
  obtain ⟨houtcome, helapsed, -⟩ := @run_carried definition ⟨"::1", 80, "/"⟩ surroundings
    conditions (.v4 ⟨127, 0, 0, 1⟩ 80) rfl rfl hcancel _ rfl
  have hended : cancelled.elapsed = 4000000000 := helapsed.trans hending.1
  have hcharged := (@run_charges_received definition ⟨"::1", 80, "/"⟩ surroundings conditions
    (.v4 ⟨127, 0, 0, 1⟩ 80) hvalid rfl rfl hcancel).2 (.ofAvailable 10000) rfl
  rw [hended, htraffic] at hcharged
  refine ⟨⟨hvalid, rfl, rfl, hcancel⟩, ?_, hcharged (by decide)⟩
  rw [houtcome]
  change Except.bind (carry definition surroundings true (.after 4000000000)).windowStart _ = _
  rw [hending.2]
  rfl

end Download

end Throughput
