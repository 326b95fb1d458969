import Throughput.Proofs.Download.Carried
import Throughput.Proofs.Download.Passage
import Throughput.Proofs.StableSort

/-!
# How a download ends

As long as a run goes on, its coordinator has nothing to conclude and its window is open. So a run
ends with the reading that gives the coordinator something to conclude, with its window, or with the
cancellation, whichever comes first.
-/

namespace Throughput

open Agenda

/-- A run that has got so far goes on. -/
structure Underway (definition : DownloadDefinition) (done : Agenda) : Prop where
  undecided : done.verdict? definition = none
  timely : ∀ window, done.window? definition = some window →
    ∀ appointment ∈ done, appointment.time < window.stop

def Agenda.Plain (agenda : Agenda) : Prop :=
  ∀ appointment ∈ agenda, appointment.occurrence = .cancel ∨
    ∃ id timed, appointment = .reads id timed

/-- Where a run ends that has done a part of its agenda. -/
inductive Ends (definition : DownloadDefinition) (now : Nat) (done : Agenda) :
    Agenda → DownloadEnd → Prop
  | rests : Underway definition done →
      Ends definition now done [] ((Download.carried definition done).rest now)
  | expires {appointment : Appointment} {rest : Agenda} {window : Window} :
      Underway definition done → done.window? definition = some window →
      window.stop ≤ appointment.time →
      Ends definition now done (appointment :: rest)
        ⟨.carried definition done, window.stop, .ok window.start⟩
  | cancels {time : Nat} {rest : Agenda} : Underway definition done →
      (∀ window, done.window? definition = some window → time < window.stop) →
      Ends definition now done (⟨time, .cancel⟩ :: rest)
        ⟨.carried definition done, time, .error .cancelled⟩
  | concludes {id : Nat} {timed : TimedReading} {before rest : Agenda}
      {outcome : Except MeasureError Nat} : done = before ++ [.reads id timed] →
      Underway definition before →
      (∀ window, before.window? definition = some window → timed.time < window.stop) →
      done.verdict? definition = some outcome →
      Ends definition now done rest ⟨.carried definition done, timed.time, outcome⟩

section Step

variable {definition : DownloadDefinition} {done : Agenda} {id : Nat} {timed : TimedReading}

theorem window?_concat (hlate : ∀ appointment ∈ done, appointment.time ≤ timed.time)
    {window : Window} (hwindow : window? definition (done ++ [.reads id timed]) = some window) :
    done.window? definition = some window ∨ window = .ofDefinition definition timed.time := by
  by_cases hid : id < definition.threads.toNat
  · by_cases hfirst : done.readings id = []
    · right
      rw [window?] at hwindow
      split at hwindow
      · rw [settledAt_first hlate hid hfirst] at hwindow
        exact (Option.some.inj hwindow).symm
      · cases hwindow
    · left
      rw [← hwindow]
      exact (window?_later hfirst definition).symm
  · left
    rw [← hwindow]
    refine window?_congr fun other hother => ?_
    rw [readings_concat, if_neg (by omega), List.append_nil]

theorem lt_stop_ofDefinition (htarget : 0 < definition.targetTime.toNat) (time : Nat) :
    time < (Window.ofDefinition definition time).stop := by
  have hspan : 0 < Span.ofMillis definition.targetTime.toNat :=
    Nat.mul_pos htarget (by decide)
  simp only [Window.ofDefinition]
  omega

theorem timely_concat (htarget : 0 < definition.targetTime.toNat)
    (hlate : ∀ appointment ∈ done, appointment.time ≤ timed.time)
    (htimely : ∀ window, done.window? definition = some window → timed.time < window.stop) :
    ∀ window, window? definition (done ++ [.reads id timed]) = some window →
      ∀ appointment ∈ done ++ [.reads id timed], appointment.time < window.stop := by
  intro window hwindow appointment hmem
  have hle : appointment.time ≤ timed.time := late_concat hlate appointment hmem
  have hstop : timed.time < window.stop := by
    rcases window?_concat hlate hwindow with hopen | rfl
    · exact htimely window hopen
    · exact lt_stop_ofDefinition htarget timed.time
  omega

end Step

theorem Coordinator.expired?_eq_some {coordinator : Coordinator} {time : Nat} {window : Window} :
    coordinator.expired? time = some window ↔
      coordinator.window = some window ∧ window.stop ≤ time := by
  rw [expired?]
  cases coordinator.window with
  | none => simp
  | some other =>
    dsimp only
    rw [Option.ite_none_right_eq_some, Option.some.injEq, and_comm]
    refine and_congr_right ?_
    rintro rfl
    rfl

theorem underway_nil {definition : DownloadDefinition} (hworkers : 0 < definition.threads.toNat) :
    Underway definition [] where
  undecided := verdict?_of_waiting fun h => h 0 hworkers rfl
  timely := by simp

namespace Download

section Carried

variable {definition : DownloadDefinition} {done : Agenda}

theorem expired?_carried {time : Nat} {window : Window} :
    (carried definition done).coordinator.expired? time = some window ↔
      done.window? definition = some window ∧ window.stop ≤ time :=
  Coordinator.expired?_eq_some

theorem expired?_carried_eq_none {time : Nat} :
    (carried definition done).coordinator.expired? time = none ↔
      ∀ window, done.window? definition = some window → time < window.stop := by
  rw [Option.eq_none_iff_forall_ne_some]
  refine forall_congr' fun window => ?_
  rw [Ne, expired?_carried, not_and, Nat.not_le]

/-- One step of a run that goes on: the coordinator still has nothing to conclude. -/
theorem underway_concat {id : Nat} {timed : TimedReading} {next : Download}
    (htarget : 0 < definition.targetTime.toNat) (hunderway : Underway definition done)
    (hlate : ∀ appointment ∈ done, appointment.time ≤ timed.time)
    (hexpired : (carried definition done).coordinator.expired? timed.time = none)
    (hhappen : (carried definition done).happen timed.time id (.read timed.reading) =
      (next, none)) :
    next = carried definition (done ++ [.reads id timed]) ∧
      Underway definition (done ++ [.reads id timed]) := by
  rw [happen_carried hunderway.undecided hlate, Prod.mk.injEq] at hhappen
  exact ⟨hhappen.1.symm, hhappen.2,
    timely_concat htarget hlate (expired?_carried_eq_none.mp hexpired)⟩

theorem eventOf_carried {id : Nat} {timed : TimedReading} (event : WorkerEvent) :
    event ∈ said definition.threads.toNat (done ++ [.reads id timed]) ↔
      event ∈ done.said definition.threads.toNat ∨
        event ∈ ((carried definition done).eventOf timed.time id (.read timed.reading)).toList := by
  by_cases hid : id < definition.threads.toNat
  · have htask : (carried definition done).tasks[id]? =
        some (Task.ofReadings id (done.readings id)) := by
      simp [carried, hid]
    rw [mem_said_concat hid, List.mem_append, eventOf, htask, Option.bind_some,
      Task.happen_ofReadings]
  · have htask : (carried definition done).tasks[id]? = none := by
      simp [carried, Nat.le_of_not_lt hid]
    rw [said_congr (readings_stranger (Nat.le_of_not_lt hid)), eventOf, htask]
    simp

theorem Passes.carried {more : Agenda} {events : List WorkerEvent} {first last : Download}
    (hpasses : Passes first more events last) (hfirst : first = .carried definition done)
    (htarget : 0 < definition.targetTime.toNat) (hunderway : Underway definition done)
    (hascending : Ascending Appointment.time (done ++ more)) (hplain : more.Plain) :
    last = .carried definition (done ++ more) ∧ Underway definition (done ++ more) ∧
      ∀ event, event ∈ said definition.threads.toNat (done ++ more) ↔
        event ∈ done.said definition.threads.toNat ∨ event ∈ events := by
  -- The invariant is that the download is the one carried by what has been read.
  induction hpasses generalizing done with
  | nil => simpa using ⟨hfirst, hunderway⟩
  | @cons download next last time id happening agenda events hexpired hhappen _ ih =>
    subst hfirst
    have hlate : ∀ appointment ∈ done, appointment.time ≤ time := hascending.le_of_before
    rw [List.append_cons] at hascending ⊢
    obtain hcancel | ⟨other, timed, hreads⟩ := hplain _ List.mem_cons_self
    · cases hcancel
    · cases hreads
      obtain ⟨hnext, hunderway⟩ := underway_concat htarget hunderway hlate hexpired hhappen
      obtain ⟨hlast, hstill, hsaid⟩ := ih hnext hunderway hascending
        fun appointment hmem => hplain appointment (List.mem_cons_of_mem _ hmem)
      refine ⟨hlast, hstill, fun event => ?_⟩
      rw [hsaid, eventOf_carried, List.mem_append, or_assoc]

end Carried

/-- Where the run ends that has opened, and what its workers have reported until then. -/
theorem exists_ends {definition : DownloadDefinition} (hworkers : 0 < definition.threads.toNat)
    (htarget : 0 < definition.targetTime.toNat) (now : Nat) {agenda : Agenda}
    (hascending : Ascending Appointment.time agenda) (hplain : agenda.Plain) :
    ∃ done rest, agenda = done ++ rest ∧
      Ends definition (timeAfter now done) done rest
        ((carried definition []).advance now agenda) ∧
      ∀ event, event ∈ done.said definition.threads.toNat ↔
        event ∈ said definition.threads.toNat [] ∨ event ∈ (carried definition []).log agenda := by
  obtain ⟨done, rest, events, final, last, hagenda, hpasses, hstops, hlog⟩ :=
    (carried definition []).exists_passes now agenda
  subst hagenda
  have hplainDone : Plain done := fun appointment hmem =>
    hplain appointment (List.mem_append_left _ hmem)
  have hascendingDone : Ascending Appointment.time done :=
    (List.pairwise_append.mp hascending).1
  obtain ⟨rfl, hunderway, hsaid⟩ := hpasses.carried rfl htarget (underway_nil hworkers)
    hascendingDone hplainDone
  rw [List.nil_append] at hstops hunderway hsaid
  rw [hlog]
  generalize (carried definition []).advance now (done ++ rest) = ending at hstops
  cases hstops with
  | rests =>
    refine ⟨done, [], rfl, .rests hunderway, ?_⟩
    intro event
    rw [List.append_nil, hsaid]
  | @expires appointment rest window hexpired =>
    obtain ⟨hwindow, hstop⟩ := expired?_carried.mp hexpired
    refine ⟨done, _, rfl, .expires hunderway hwindow hstop, ?_⟩
    intro event
    rw [List.append_nil, hsaid]
  | cancels hexpired =>
    refine ⟨done, _, rfl, .cancels hunderway (expired?_carried_eq_none.mp hexpired), ?_⟩
    intro event
    rw [List.append_nil, hsaid]
  | @concludes next time id happening rest outcome hexpired hhappen =>
    have hlate := hascending.le_of_before
    obtain hcancel | ⟨other, timed, hreads⟩ :=
      hplain ⟨time, .worker id happening⟩ (List.mem_append_right _ List.mem_cons_self)
    · cases hcancel
    · cases hreads
      rw [happen_carried hunderway.undecided hlate, Prod.mk.injEq] at hhappen
      obtain ⟨rfl, hverdict⟩ := hhappen
      refine ⟨done ++ [.reads id timed], rest, List.append_cons .., ?_, ?_⟩
      · exact .concludes rfl hunderway (expired?_carried_eq_none.mp hexpired) hverdict
      · intro event
        rw [eventOf_carried, hsaid, List.mem_append, or_assoc]

end Download

end Throughput
