import Throughput.Proofs.Download.Plan
import Throughput.Proofs.Worker.Traffic

/-!
# How far a run comes

A run comes to everything up to its end, except that the window ends before anything else on its
instant. What a run leaves of its agenda it does not come to, or it is for a worker that is over.
-/

namespace Throughput

namespace Window

/-- Whether a run that lasts so long comes to a time. -/
def reaches (window : Window) (elapsed time : Nat) : Bool :=
  time ≤ elapsed && time < window.stop

variable {window : Window} {elapsed : Nat}

theorem reaches_iff {time : Nat} :
    window.reaches elapsed time = true ↔ time ≤ elapsed ∧ time < window.stop := by
  simp [reaches]

theorem not_reaches_iff {time : Nat} :
    window.reaches elapsed time = false ↔ elapsed < time ∨ window.stop ≤ time := by
  rw [← Bool.not_eq_true, reaches_iff]
  omega

theorem reaches_down (early late : Nat) (hle : early ≤ late)
    (h : window.reaches elapsed late = true) : window.reaches elapsed early = true := by
  rw [reaches_iff] at h ⊢
  omega

end Window

namespace Task

/-- A worker that takes no more samples, whatever comes. -/
def Over (readings : Readings) : Prop :=
  readings ≠ [] ∧ (readings.delivers && !readings.closes) = false

end Task

/-- What a run that lasts so long does of its agenda. -/
structure Reached (workers : Nat) (window : Window) (elapsed : Nat) (done rest : Agenda) :
    Prop where
  came : ∀ appointment ∈ done, window.reaches elapsed appointment.time = true
  left : ∀ id < workers, Task.Over (done.readings id) ∨
    ∀ timed ∈ rest.readings id, window.reaches elapsed timed.time = false

open Agenda

namespace Agenda

theorem not_reaches_readings {window : Window} {elapsed : Nat} {rest : Agenda}
    (hrest : ∀ appointment ∈ rest, elapsed < appointment.time ∨ window.stop ≤ appointment.time)
    (id : Nat) : ∀ timed ∈ rest.readings id, window.reaches elapsed timed.time = false := by
  intro timed hmem
  exact Window.not_reaches_iff.mpr (hrest _ (mem_readings.mp hmem))

theorem le_settledAt_of_waiting {workers time : Nat} {done rest : Agenda}
    (hanswered : Answered workers (done ++ rest)) (hwaiting : ¬ done.Answered workers)
    (hlater : ∀ appointment ∈ rest, time ≤ appointment.time) :
    time ≤ settledAt workers (done ++ rest) := by
  simp only [Answered, not_forall, ne_eq, not_not] at hwaiting
  obtain ⟨id, hid, hnil⟩ := hwaiting
  have hreadings : readings id (done ++ rest) = rest.readings id := by
    rw [readings_append, hnil, List.nil_append]
  obtain ⟨first, others, hcons⟩ := List.exists_cons_of_ne_nil (hreadings ▸ hanswered id hid)
  calc
    time ≤ first.time := hlater _ (mem_readings.mp (hcons ▸ List.mem_cons_self))
    _ = (readings id (done ++ rest)).firstTime := by
      rw [hreadings, hcons]
      rfl
    _ ≤ settledAt workers (done ++ rest) :=
      Finset.le_sup (f := fun id => (readings id (done ++ rest)).firstTime)
        (Finset.mem_range.mpr hid)

end Agenda

section Ends

variable {definition : DownloadDefinition} {now : Nat} {done rest : Agenda} {ending : DownloadEnd}

theorem Underway.exists_stop (h : Underway definition done)
    (hanswered : done.Answered definition.threads.toNat) :
    ∃ window, done.window? definition = some window ∧
      (∀ now, (Download.carried definition done).rest now =
        ⟨.carried definition done, window.stop, .ok window.start⟩) ∧
      ∀ rest, Window.ofDefinition definition
        (settledAt definition.threads.toNat (done ++ rest)) = window := by
  obtain ⟨window, hwindow, hrest⟩ := h.exists_window hanswered
  obtain ⟨-, -, hopened⟩ := window?_eq_some.mp hwindow
  exact ⟨window, hwindow, hrest, fun rest => by rw [settledAt_append hanswered, hopened]⟩

theorem reached_expired {window : Window} (hunderway : Underway definition done)
    (hwindow : done.window? definition = some window)
    (hrest : ∀ appointment ∈ rest, window.stop ≤ appointment.time) :
    Reached definition.threads.toNat window window.stop done rest where
  came := by
    intro appointment hmem
    have hlt := hunderway.timely window hwindow appointment hmem
    exact Window.reaches_iff.mpr ⟨Nat.le_of_lt hlt, hlt⟩
  left := fun id _ =>
    .inr (not_reaches_readings (fun appointment hmem => .inr (hrest appointment hmem)) id)

theorem reached_cancelled {time : Nat} {window : Window}
    (hlate : ∀ appointment ∈ done, appointment.time ≤ time) (hopen : time < window.stop)
    (hlater : ∀ appointment ∈ rest, time < appointment.time) :
    Reached definition.threads.toNat window time done (⟨time, .cancel⟩ :: rest) where
  came := by
    intro appointment hmem
    have hle := hlate appointment hmem
    exact Window.reaches_iff.mpr ⟨hle, by omega⟩
  left := by
    intro id _
    have hnone : ∀ timed ∈ rest.readings id, window.reaches time timed.time = false :=
      not_reaches_readings (fun appointment hmem => .inl (hlater appointment hmem)) id
    exact .inr hnone

theorem reached_concluded {time : Nat} {window : Window} {outcome : Except MeasureError Nat}
    (hlate : ∀ appointment ∈ done, appointment.time ≤ time)
    (htimely : ∀ appointment ∈ done, appointment.time < window.stop)
    (hverdict : done.verdict? definition = some outcome) :
    Reached definition.threads.toNat window time done rest where
  came := fun appointment hmem =>
    Window.reaches_iff.mpr ⟨hlate appointment hmem, htimely appointment hmem⟩
  left := fun _ hid =>
    .inl ⟨answered_of_verdict? hverdict _ hid, over_of_verdict? hverdict hid⟩

/-- A run has done what it came to, however it ends. -/
theorem Ends.reached (hends : Ends definition now done rest ending)
    (htarget : 0 < definition.targetTime.toNat)
    (hascending : Ascending Appointment.time (done ++ rest))
    (hanswered : Answered definition.threads.toNat (done ++ rest))
    (hcancel : ∀ time after, rest = ⟨time, .cancel⟩ :: after →
      ∀ appointment ∈ after, time < appointment.time) :
    ending.download = .carried definition done ∧
      Reached definition.threads.toNat
        (.ofDefinition definition (settledAt definition.threads.toNat (done ++ rest)))
        ending.time done rest := by
  cases hends with
  | rests hunderway =>
    obtain ⟨window, hwindow, hrest, hsame⟩ :=
      hunderway.exists_stop (by rwa [List.append_nil] at hanswered)
    rw [hrest, hsame]
    exact ⟨rfl, reached_expired hunderway hwindow (by simp)⟩
  | @expires appointment after window hunderway hwindow hstop =>
    obtain ⟨hbegun, -, hopened⟩ := window?_eq_some.mp hwindow
    rw [settledAt_append hbegun, ← hopened]
    refine ⟨rfl, reached_expired hunderway hwindow fun other hmem => ?_⟩
    rcases List.mem_cons.mp hmem with rfl | hlater
    · exact hstop
    · exact Nat.le_trans hstop (hascending.le_of_after other hlater)
  | @cancels time after hunderway hopen =>
    have hlater := hcancel time after rfl
    refine ⟨rfl, reached_cancelled hascending.le_of_before ?_ hlater⟩
    by_cases hbegun : done.Answered definition.threads.toNat
    · obtain ⟨window, hwindow, -, hsame⟩ := hunderway.exists_stop hbegun
      rw [hsame]
      exact hopen window hwindow
    · -- An outcome that is still missing puts off the window beyond the cancellation.
      have hsettled : time ≤
          settledAt definition.threads.toNat (done ++ ⟨time, .cancel⟩ :: after) :=
        le_settledAt_of_waiting hanswered hbegun
          (List.forall_mem_cons.mpr ⟨Nat.le_refl _, fun other hmem => (hlater other hmem).le⟩)
      have hstop := lt_stop_ofDefinition htarget
        (settledAt definition.threads.toNat (done ++ ⟨time, .cancel⟩ :: after))
      exact Nat.lt_of_le_of_lt hsettled hstop
  | @concludes id timed before _ outcome hdone hunderway hopen hverdict =>
    subst hdone
    have hbefore : Ascending Appointment.time (before ++ [.reads id timed]) :=
      (List.pairwise_append.mp hascending).1
    have hlate : ∀ appointment ∈ before ++ [.reads id timed], appointment.time ≤ timed.time :=
      late_concat hbefore.le_of_before
    have hbegun := answered_of_verdict? hverdict
    rw [settledAt_append hbegun]
    refine ⟨rfl, reached_concluded hlate (fun appointment hmem => ?_) hverdict⟩
    by_cases hsilent : downloading definition.threads.toNat (before ++ [.reads id timed]) = []
    · have htime := time_of_silent hunderway.undecided hbefore.le_of_before hverdict hsilent
      rw [← htime]
      exact Nat.lt_of_le_of_lt (hlate appointment hmem) (lt_stop_ofDefinition htarget _)
    · exact timely_concat htarget hbefore.le_of_before hopen _ (window?_of_open hbegun hsilent)
        appointment hmem

end Ends

/-- What is left of an agenda brings nothing more. -/
theorem Reached.traffic {workers elapsed id : Nat} {window : Window} {done rest : Agenda}
    (h : Reached workers window elapsed done rest) (hid : id < workers) :
    (done.readings id).traffic =
      Readings.traffic ((readings id (done ++ rest)).filter fun timed =>
        window.reaches elapsed timed.time) := by
  have hdone : (done.readings id).filter (fun timed => window.reaches elapsed timed.time) =
      done.readings id :=
    List.filter_eq_self.mpr fun timed hmem => h.came _ (mem_readings.mp hmem)
  rw [readings_append, List.filter_append, hdone]
  rcases h.left id hid with ⟨hbegun, hover⟩ | hnone
  · rw [Readings.traffic_append_of_over hbegun hover]
  · rw [List.filter_eq_nil_iff.mpr (by simpa using hnone), List.append_nil]

end Throughput
