import Throughput.Proofs.Download.Reach
import Throughput.Proofs.Download.Reference

/-!
# Cutting off a download

A cancellation changes nothing for a run that has ended before. Any other run ends with it, with its
workers where they were carried by then, and what is on the agenda after it has no part in that.
-/

namespace Throughput

open Agenda

/-- A run that goes on at some time ends later, if nothing more happens until then. -/
theorem Underway.lt_endOf {definition : DownloadDefinition} {done rest : Agenda} {time : Nat}
    (h : Underway definition done) (htarget : 0 < definition.targetTime.toNat)
    (hanswered : Answered definition.threads.toNat (done ++ rest))
    (hopen : ∀ window, done.window? definition = some window → time < window.stop)
    (hlater : ∀ appointment ∈ rest, time < appointment.time) :
    time < endOf definition (done ++ rest) := by
  by_cases hbegun : done.Answered definition.threads.toNat
  · obtain ⟨window, hwindow, -, hsame⟩ := h.exists_stop hbegun
    obtain ⟨-, hdown, -⟩ := window?_eq_some.mp hwindow
    have hstop : time < (Window.ofDefinition definition
        (settledAt definition.threads.toNat (done ++ rest))).stop := by
      rw [hsame]
      exact hopen window hwindow
    rw [endOf, downloading_append hbegun, if_neg hdown]
    split
    · next hclosed =>
      -- One stream is still open, and ends later.
      obtain ⟨id, hid, hstream⟩ := exists_open hbegun hdown h.undecided
      obtain ⟨ending, hending, htime⟩ := exists_ending_of_open hstream (hclosed id hid)
      have hmem : id ∈ downloading definition.threads.toNat (done ++ rest) := by
        rwa [downloading_append hbegun]
      refine Nat.lt_min.mpr ⟨hstop, ?_⟩
      calc
        time < ending.time := hlater _ (mem_readings.mp hending)
        _ = _ := htime
        _ ≤ _ := closingTime_le_finishedAt hmem
    · exact hstop
  · -- An outcome is still missing, and comes later.
    have hsettled : time < settledAt definition.threads.toNat (done ++ rest) :=
      le_settledAt_of_waiting hanswered hbegun hlater
    have hstop := lt_stop_ofDefinition htarget
      (settledAt definition.threads.toNat (done ++ rest))
    rw [endOf]
    split
    · exact hsettled
    · split
      · refine Nat.lt_min.mpr ⟨Nat.lt_trans hsettled hstop, ?_⟩
        exact Nat.lt_of_lt_of_le hsettled (settledAt_le_finishedAt _ _)
      · exact Nat.lt_trans hsettled hstop

/-- A run that ends of itself, and the same run cancelled at some time when its workers had been
carried so far. -/
structure DownloadEnd.CutAt (time : Nat) (reached : Download) (whole cut : DownloadEnd) : Prop where
  kept : whole.time ≤ time → cut = whole
  cancelled : time < whole.time → cut = ⟨reached, time, .error .cancelled⟩

namespace Download

/-- What comes after a cancellation does not matter. -/
theorem advance_past_cancel (download : Download) (now : Nat) (before after : Agenda)
    (time : Nat) :
    download.advance now (before ++ ⟨time, .cancel⟩ :: after) =
      download.advance now (before ++ [⟨time, .cancel⟩]) := by
  induction before generalizing download now with
  | nil => rfl
  | cons appointment before ih => simp only [List.cons_append, advance, ih]

/-- A window that has ended ends the run before all that is still to come. -/
theorem advance_expired {download : Download} {time : Nat} {window : Window}
    (hexpired : download.coordinator.expired? time = some window) (now : Nat) {rest : Agenda}
    (hlater : ∀ appointment ∈ rest, time ≤ appointment.time) :
    window.stop ≤ time ∧
      download.advance now rest = ⟨download, window.stop, .ok window.start⟩ := by
  obtain ⟨hwindow, hstop⟩ := Coordinator.expired?_eq_some.mp hexpired
  refine ⟨hstop, ?_⟩
  cases rest with
  | nil => rw [advance, Download.rest, hwindow]
  | cons appointment rest =>
    have hlate : download.coordinator.expired? appointment.time = some window :=
      Coordinator.expired?_eq_some.mpr
        ⟨hwindow, Nat.le_trans hstop (hlater _ List.mem_cons_self)⟩
    simp only [advance, hlate]

/-- What stops a run at an appointment does so whatever comes after it. -/
theorem Stops.ended {download : Download} {now : Nat} {appointment : Appointment} {rest : Agenda}
    {events : List WorkerEvent} {ending : DownloadEnd}
    (h : Stops download now (appointment :: rest) events ending) :
    ending.time ≤ appointment.time ∧
      ∀ more, download.advance now (appointment :: rest ++ more) = ending := by
  cases h with
  | @expires _ _ window hexpired =>
    constructor
    · exact (Coordinator.expired?_eq_some.mp hexpired).2
    · intro more
      simp only [List.cons_append, advance, hexpired]
  | cancels hexpired =>
    refine ⟨Nat.le_refl _, fun more => ?_⟩
    simp only [List.cons_append, advance, hexpired]
  | concludes hexpired hhappen =>
    refine ⟨Nat.le_refl _, fun more => ?_⟩
    simp only [List.cons_append, advance, hexpired, hhappen]

/-- A run ends within a part of its agenda, whatever comes after that, or passes through it. -/
theorem stops_or_passes (download : Download) (now : Nat) {agenda : Agenda} {time : Nat}
    (hdue : ∀ appointment ∈ agenda, appointment.time ≤ time) :
    (∃ ending : DownloadEnd, ending.time ≤ time ∧
        ∀ more, download.advance now (agenda ++ more) = ending) ∨
      ∃ events last, Passes download agenda events last := by
  obtain ⟨done, rest, events, final, last, rfl, hpasses, hstops, -⟩ :=
    download.exists_passes now agenda
  cases rest with
  | nil => exact Or.inr ⟨events, last, by rwa [List.append_nil]⟩
  | cons appointment rest =>
    obtain ⟨hbefore, hended⟩ := hstops.ended
    have htime : appointment.time ≤ time :=
      hdue _ (List.mem_append_right _ List.mem_cons_self)
    refine Or.inl ⟨_, Nat.le_trans hbefore htime, fun more => ?_⟩
    rw [List.append_assoc, (hpasses.advance now _).1]
    exact hended more

section Carried

variable {definition : DownloadDefinition} {agenda : Agenda}
  (hcomplete : agenda.Complete definition.threads.toNat)
  (hworkers : 0 < definition.threads.toNat) (htarget : 0 < definition.targetTime.toNat)
include hcomplete hworkers htarget

theorem cutAt_advance (now time : Nat) :
    DownloadEnd.CutAt time (carried definition (agenda.upTo time))
      ((carried definition []).advance now agenda)
      ((carried definition []).advance now (agenda.withCancel (some time))) := by
  have hsplit := hcomplete.split time
  have hforeseen := (foreseen_advance hcomplete hworkers htarget now).time
  rcases (carried definition []).stops_or_passes now (@le_of_mem_upTo time agenda) with
    ⟨ending, hbefore, hended⟩ | ⟨events, last, hpasses⟩
  · -- The run has ended before the cancellation comes.
    have hwhole : (carried definition []).advance now agenda = ending := by
      rw [hsplit]
      exact hended _
    have hcut : (carried definition []).advance now (agenda.withCancel (some time)) = ending :=
      hended _
    rw [hwhole, hcut]
    exact ⟨fun _ => rfl, fun hafter => absurd hafter (Nat.not_lt.mpr hbefore)⟩
  · have hascending : Ascending Appointment.time (agenda.upTo time) := hcomplete.ascending.filter _
    have hplain : (agenda.upTo time).Plain := fun appointment hmem =>
      hcomplete.plain appointment (List.mem_of_mem_filter hmem)
    obtain ⟨rfl, hunderway, -⟩ := hpasses.carried rfl htarget (underway_nil hworkers)
      hascending hplain
    rw [List.nil_append] at hpasses hunderway
    have hcut := (hpasses.advance now (⟨time, .cancel⟩ :: agenda.beyond time)).1
    change (carried definition []).advance now (agenda.withCancel (some time)) = _ at hcut
    have hwhole := (hpasses.advance now (agenda.beyond time)).1
    rw [← hsplit] at hwhole
    cases hexpired : (carried definition (agenda.upTo time)).coordinator.expired? time with
    | some window =>
      obtain ⟨hstop, hkept⟩ := advance_expired hexpired (timeAfter now (agenda.upTo time))
        fun appointment hmem => Nat.le_of_lt (lt_of_mem_beyond appointment hmem)
      have hcancel : ∀ appointment ∈ ⟨time, .cancel⟩ :: agenda.beyond time,
          time ≤ appointment.time :=
        List.forall_mem_cons.mpr ⟨Nat.le_refl _, fun appointment hmem =>
          Nat.le_of_lt (lt_of_mem_beyond appointment hmem)⟩
      obtain ⟨-, hsame⟩ := advance_expired hexpired (timeAfter now (agenda.upTo time)) hcancel
      rw [hwhole, hcut, hkept, hsame]
      exact ⟨fun _ => rfl, fun hafter => absurd hafter (Nat.not_lt.mpr hstop)⟩
    | none =>
      have hafter : time < ((carried definition []).advance now agenda).time := by
        rw [hforeseen, hsplit]
        exact hunderway.lt_endOf htarget (hsplit ▸ hcomplete.answered)
          (expired?_carried_eq_none.mp hexpired) lt_of_mem_beyond
      refine ⟨fun hbefore => absurd hafter (Nat.not_lt.mpr hbefore), fun _ => ?_⟩
      rw [hcut]
      simp only [advance, hexpired]

end Carried

section Carry

variable {definition : DownloadDefinition}

/-- Only what is on the agenda until then decides how a cancelled run is carried. -/
theorem carry_after (hworkers : 0 < definition.threads.toNat) (surroundings : Surroundings)
    (accepted : Bool) (time : Nat) :
    carry definition surroundings accepted (.after time) =
      (ofDefinition definition).advance 0 (opening definition.threads.toNat accepted ++
        (surroundings.plan definition.threads.toNat).upTo time ++ [⟨time, .cancel⟩]) := by
  have hagenda := plan_eq_withCancel (List.range definition.threads.toNat)
    surroundings.firstByteTimeout (surroundings.scripts.take definition.threads.toNat) (some time)
  rw [carry_eq_opening hworkers, cancelTime.eq_def, hagenda, withCancel, ← List.append_assoc,
    advance_past_cancel]
  rfl

/-- Until its cancellation a run is carried as if nobody cancelled it. -/
theorem cutAt_carry (hbounded : definition.Bounded) (surroundings : Surroundings) (time : Nat) :
    DownloadEnd.CutAt time
      (carried definition ((surroundings.plan definition.threads.toNat).upTo time))
      (carry definition surroundings true .never)
      (carry definition surroundings true (.after time)) := by
  rw [(carry_eq_advance hbounded.threads_pos surroundings .never).1,
    (carry_eq_advance hbounded.threads_pos surroundings (.after time)).1]
  have hcut := cutAt_advance (surroundings.complete_plan definition.threads.toNat)
    hbounded.threads_pos hbounded.targetTime_pos
    (timeAfter 0 (opening definition.threads.toNat true)) time
  rw [Surroundings.plan, ← plan_eq_withCancel] at hcut
  exact hcut

end Carry

end Download

end Throughput
