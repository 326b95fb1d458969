import Mathlib
import Throughput.Download.Run
import Throughput.Probe.Run

/-!
# Announcements

What the observer of a run is told. A run that its budget refuses announces its error and nothing
else. Any other run announces that it is under way and has started, and then how it has ended, in
the words of its outcome. So the last event is the one that closes the run, and a status is only
announced when it changes.
-/

namespace Throughput

namespace Event

def status? : Event → Option Status
  | .statusChanged status => some status
  | .started | .finished _ | .error _ => none

/-- How the end of a run is announced. -/
def ofOutcome : Except MeasureError MeasurementResult → List Event
  | .ok result => [.statusChanged .finished, .finished result]
  | .error e => [.statusChanged .error, .error e.message]

end Event

namespace Journal

/-- The statuses that were announced, in order. -/
def statuses (journal : Journal) : List Status :=
  journal.events.filterMap Event.status?

/-- No status was announced twice in a row, and the last one announced is the current one. -/
structure Steady (journal : Journal) : Prop where
  changes : (Status.initial :: journal.statuses).IsChain (· ≠ ·)
  current : journal.observed = true →
    (Status.initial :: journal.statuses).getLast? = some journal.status

theorem steady_ofObserved (observed : Bool) : (ofObserved observed).Steady :=
  ⟨.singleton _, fun _ => rfl⟩

section Steps

variable {journal : Journal}

theorem emit_of_observed (hobserved : journal.observed = true) (event : Event) :
    journal.emit event = { journal with events := journal.events ++ [event] } :=
  if_pos hobserved

theorem emit_of_unobserved (hobserved : journal.observed = false) (event : Event) :
    journal.emit event = journal :=
  if_neg (Bool.eq_false_iff.mp hobserved)

theorem statuses_concat (journal : Journal) (status : Status) (event : Event) :
    Journal.statuses { journal with status, events := journal.events ++ [event] } =
      journal.statuses ++ event.status?.toList := by
  cases hstatus : event.status? <;> simp [statuses, hstatus]

theorem Steady.emit (h : journal.Steady) {event : Event} (hquiet : event.status? = none) :
    (journal.emit event).Steady := by
  obtain hobserved | hobserved := Bool.eq_false_or_eq_true journal.observed
  · rw [emit_of_observed hobserved]
    have hsame := journal.statuses_concat journal.status event
    rw [hquiet, Option.toList_none, List.append_nil] at hsame
    constructor
    · rw [hsame]
      exact h.changes
    · rw [hsame]
      exact h.current
  · rwa [emit_of_unobserved hobserved]

/-- A new status is announced at the end of the others, and differs from the last of them. -/
theorem Steady.change (h : journal.Steady) {status : Status} (hchange : journal.status ≠ status) :
    (Journal.emit { journal with status } (.statusChanged status)).Steady := by
  let changed : Journal := { journal with status }
  have hsame : changed.observed = journal.observed := rfl
  obtain hobserved | hobserved := Bool.eq_false_or_eq_true changed.observed
  · rw [emit_of_observed hobserved]
    have hmore := journal.statuses_concat status (.statusChanged status)
    have hlast := h.current (hsame.symm.trans hobserved)
    constructor
    · rw [hmore, ← List.cons_append, List.isChain_append]
      refine ⟨h.changes, .singleton _, fun last hmem next hnext => ?_⟩
      rw [hlast] at hmem
      cases hmem
      cases hnext
      exact hchange
    · intro _
      rw [hmore, ← List.cons_append]
      exact List.getLast?_concat
  · rw [emit_of_unobserved hobserved]
    exact ⟨h.changes, fun hheard => absurd (hobserved.symm.trans hheard) Bool.false_ne_true⟩

theorem Steady.setStatus (h : journal.Steady) (status : Status) :
    (journal.setStatus status).Steady := by
  rw [Journal.setStatus]
  split
  · exact h
  · next hchange => exact h.change hchange

theorem Steady.start (h : journal.Steady) : journal.start.Steady :=
  (h.setStatus .running).emit rfl

theorem Steady.close (h : journal.Steady) (outcome : Except MeasureError MeasurementResult) :
    (journal.close outcome).Steady := by
  cases outcome with
  | ok result => exact (h.setStatus .finished).emit rfl
  | error e => exact (h.setStatus .error).emit rfl

end Steps

/-! ### What is announced -/

theorem events_refused (e : MeasureError) :
    ((ofObserved true).close (.error e)).events = Event.ofOutcome (.error e) :=
  rfl

theorem events_started (outcome : Except MeasureError MeasurementResult) :
    ((ofObserved true).start.close outcome).events =
      .statusChanged .running :: .started :: Event.ofOutcome outcome := by
  cases outcome <;> rfl

end Journal

namespace Run

/-- A run whose observer is told what happens to it and nothing else. -/
structure Announces {α : Type} (run : Run α) (wrap : α → MeasurementResult) (budget : Budget) :
    Prop where
  refused : budget.exhausted = true →
    run.outcome = .error (.budgetExhausted budget.remaining) ∧
      run.journal.events =
        [.statusChanged .error, .error (MeasureError.budgetExhausted budget.remaining).message]
  started : budget.exhausted = false →
    run.journal.events =
      [.statusChanged .running, .started] ++ Event.ofOutcome (run.outcome.map wrap)
  finished : ∀ result, .finished result ∈ run.journal.events ↔
    ∃ value, run.outcome = .ok value ∧ wrap value = result
  failed : ∀ message, .error message ∈ run.journal.events ↔
    ∃ e, run.outcome = .error e ∧ e.message = message
  terminal : ∃ before last, run.journal.events = before ++ [last] ∧ last.isTerminal = true ∧
    ∀ event ∈ before, event.isTerminal = false
  changes : (Status.initial :: run.journal.statuses).IsChain (· ≠ ·)

section Closing

variable {α : Type} {wrap : α → MeasurementResult} {outcome : Except MeasureError α}
  {before : List Event} (hbefore : ∀ event ∈ before, event.isTerminal = false)
include hbefore

theorem finished_mem_iff (result : MeasurementResult) :
    .finished result ∈ before ++ Event.ofOutcome (outcome.map wrap) ↔
      ∃ value, outcome = .ok value ∧ wrap value = result := by
  have hnot : .finished result ∉ before := fun hmem => Bool.false_ne_true (hbefore _ hmem).symm
  rw [List.mem_append, or_iff_right hnot]
  cases outcome <;> simp [Except.map, Event.ofOutcome, eq_comm]

theorem error_mem_iff (message : String) :
    .error message ∈ before ++ Event.ofOutcome (outcome.map wrap) ↔
      ∃ e, outcome = .error e ∧ e.message = message := by
  have hnot : .error message ∉ before := fun hmem => Bool.false_ne_true (hbefore _ hmem).symm
  rw [List.mem_append, or_iff_right hnot]
  cases outcome <;> simp [Except.map, Event.ofOutcome, eq_comm]

theorem exists_terminal :
    ∃ earlier last, before ++ Event.ofOutcome (outcome.map wrap) = earlier ++ [last] ∧
      last.isTerminal = true ∧ ∀ event ∈ earlier, event.isTerminal = false := by
  cases outcome with
  | ok value =>
    refine ⟨before ++ [.statusChanged .finished], .finished (wrap value), ?_, rfl, ?_⟩
    · rw [List.append_assoc]
      rfl
    · simpa [or_imp, forall_and] using ⟨hbefore, rfl⟩
  | error e =>
    refine ⟨before ++ [.statusChanged .error], .error e.message, ?_, rfl, ?_⟩
    · rw [List.append_assoc]
      rfl
    · simpa [or_imp, forall_and] using ⟨hbefore, rfl⟩

end Closing

section Announces

variable {α : Type} (wrap : α → MeasurementResult)

theorem announces_refused {conditions : Conditions} (hobserved : conditions.observed = true)
    (hbudget : conditions.budget.exhausted = true) :
    (refused wrap conditions).Announces wrap conditions.budget := by
  have hevents : (refused wrap conditions).journal.events =
      [] ++ Event.ofOutcome ((refused wrap conditions).outcome.map wrap) := by
    rw [refused, hobserved]
    exact Journal.events_refused _
  have hnone : ∀ event ∈ ([] : List Event), event.isTerminal = false := by simp
  refine ⟨fun _ => ⟨rfl, hevents⟩, fun hopen => ?_, ?_, ?_, ?_, ?_⟩
  · exact absurd (hopen.symm.trans hbudget) Bool.false_ne_true
  · rw [hevents]
    exact finished_mem_iff hnone
  · rw [hevents]
    exact error_mem_iff hnone
  · rw [hevents]
    exact exists_terminal hnone
  · exact ((Journal.steady_ofObserved _).close _).changes

theorem announces_close {conditions : Conditions} (hobserved : conditions.observed = true)
    (hbudget : conditions.budget.exhausted = false) (outcome : Except MeasureError α)
    (elapsed : Nat) (left : Budget) :
    (close wrap outcome elapsed left
      (Journal.ofObserved conditions.observed).start).Announces wrap conditions.budget := by
  rw [hobserved]
  have hevents := Journal.events_started (outcome.map wrap)
  have hnone : ∀ event ∈ [Event.statusChanged .running, .started], event.isTerminal = false := by
    simp [Event.isTerminal]
  refine ⟨fun hspent => ?_, fun _ => hevents, ?_, ?_, ?_, ?_⟩
  · exact absurd (hbudget.symm.trans hspent) Bool.false_ne_true
  · rw [close, hevents]
    exact finished_mem_iff hnone
  · rw [close, hevents]
    exact error_mem_iff hnone
  · rw [close, hevents]
    exact exists_terminal hnone
  · exact ((Journal.steady_ofObserved true).start.close _).changes

end Announces

end Run

section Engines

variable {conditions : Conditions} (hobserved : conditions.observed = true)
include hobserved

theorem Download.announces (dialing : Dialing) (definition : DownloadDefinition) (target : Target)
    (surroundings : Surroundings) :
    (Download.runDialed dialing definition target surroundings conditions).Announces .download
      conditions.budget := by
  rw [Download.runDialed]
  split
  · next hbudget => exact Run.announces_refused _ hobserved hbudget
  · next hbudget =>
    have hopen := Bool.eq_false_iff.mpr hbudget
    split
    · exact Run.announces_close _ hobserved hopen _ _ _
    · split <;> exact Run.announces_close _ hobserved hopen _ _ _

theorem Probe.announces (definition : TrainsDefinition) (timers : ProbeTimers)
    (deliveries : List Delivery) :
    (Probe.run definition timers conditions deliveries).Announces .trains conditions.budget := by
  rw [Probe.run]
  split
  · next hbudget => exact Run.announces_refused _ hobserved hbudget
  · next hbudget => exact Run.announces_close _ hobserved (Bool.eq_false_iff.mpr hbudget) _ _ _

/-- Whatever happens to a run of either engine, its observer is told of it in the same words. -/
theorem runs_announce :
    (∀ definition target surroundings,
      (Download.run definition target surroundings conditions).Announces .download
        conditions.budget) ∧
    ∀ definition timers deliveries,
      (Probe.run definition timers conditions deliveries).Announces .trains conditions.budget :=
  ⟨Download.announces hobserved .prompt, Probe.announces hobserved⟩

end Engines

/-- A download finds no address, and a probe hears one record and is then left alone. -/
theorem runs_announce_both :
    let conditions : Conditions := ⟨.limited (.ofAvailable 1000), .after 1500000000, true⟩
    let surroundings : Surroundings :=
      ⟨.ok [], .ideal, [], 5000000000, ⟨2024, 1, 1, 12, 0, 0, 0⟩⟩
    let download := Download.run .initial ⟨"a.example", 80, "/"⟩ surroundings conditions
    let probe := Probe.run .initial .initial conditions
      [⟨5, .datagram (TrainRecord.encode ⟨0, 0, 0⟩ 12)⟩]
    conditions.observed = true ∧
      (download.Announces .download conditions.budget ∧
        probe.Announces .trains conditions.budget) ∧
      download.journal.events =
        [.statusChanged .running, .started, .statusChanged .error,
          .error "name resolution failed for a.example: no addresses"] ∧
      probe.journal.events =
        [.statusChanged .running, .started, .statusChanged .finished,
          .finished (.trains .none)] := by
  intro conditions surroundings download probe
  have hannounced := @runs_announce conditions rfl
  have hdownload : download.Announces .download conditions.budget := hannounced.1 _ _ _
  have hprobe : probe.Announces .trains conditions.budget := hannounced.2 _ _ _
  have hunresolved : download.outcome = .error (.resolution "a.example" "no addresses") := rfl
  have hheard : probe.outcome = .ok .none := by
    dsimp only [probe, conditions]
    cbv
  have hfailed := hdownload.started rfl
  have hfinished := hprobe.started rfl
  rw [hunresolved] at hfailed
  rw [hheard] at hfinished
  exact ⟨rfl, ⟨hdownload, hprobe⟩, hfailed, hfinished⟩

end Throughput
