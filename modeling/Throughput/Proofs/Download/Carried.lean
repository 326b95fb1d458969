import Throughput.Download.Run
import Throughput.Proofs.Download.Readings

/-!
# Downloads by what their workers have read

Once the requests are out, where a download stands follows from what each of its workers has read.
-/

namespace Throughput

namespace Download

/-- The download whose workers have read so much since their requests went out. -/
def carried (definition : DownloadDefinition) (done : Agenda) : Download where
  definition
  coordinator :=
    ⟨.ofLog definition.threads.toNat (done.said definition.threads.toNat), done.window? definition⟩
  tasks := (List.range definition.threads.toNat).map fun id => Task.ofReadings id (done.readings id)

@[simp]
theorem carried_definition (definition : DownloadDefinition) (done : Agenda) :
    (carried definition done).definition = definition :=
  rfl

theorem carried_congr {definition : DownloadDefinition} {left right : Agenda}
    (h : ∀ id < definition.threads.toNat, left.readings id = right.readings id) :
    carried definition left = carried definition right := by
  have htasks : (carried definition left).tasks = (carried definition right).tasks :=
    List.map_congr_left fun id hmem => by rw [h id (List.mem_range.mp hmem)]
  simp only [carried, Agenda.said_congr h, Agenda.window?_congr h] at htasks ⊢
  rw [htasks]

section Happen

variable {definition : DownloadDefinition} {done : Agenda} {id : Nat} {timed : TimedReading}

theorem readings_stranger (hid : definition.threads.toNat ≤ id) :
    ∀ other < definition.threads.toNat,
      Agenda.readings other (done ++ [.reads id timed]) =
        Agenda.readings other done := by
  intro other hother
  rw [Agenda.readings_concat, if_neg (by omega), List.append_nil]

theorem mem_said_concat (hid : id < definition.threads.toNat) (event : WorkerEvent) :
    event ∈ Agenda.said definition.threads.toNat
        (done ++ [.reads id timed]) ↔
      event ∈ done.said definition.threads.toNat ++
        (Task.eventOf id (done.readings id) timed).toList := by
  rw [List.mem_append, Agenda.mem_said, Agenda.mem_said, Agenda.readings_concat]
  by_cases hworker : id = event.worker
  · subst hworker
    rw [if_pos rfl, Task.said_concat, List.mem_append]
    simp [hid]
  · have hother : event ∉ (Task.eventOf id (done.readings id) timed).toList := by
      intro hmem
      exact hworker (Task.worker_of_eventOf (Option.mem_toList.mp hmem)).symm
    simp [hworker, hother]

theorem admits_eventOf {event : WorkerEvent} (hid : id < definition.threads.toNat)
    (hevent : Task.eventOf id (done.readings id) timed = some event) :
    Admits definition.threads.toNat (done.said definition.threads.toNat) event := by
  rw [Task.eventOf] at hevent
  by_cases hfirst : done.readings id = []
  · rw [if_pos hfirst] at hevent
    cases hevent
    refine ⟨Agenda.handshaken_said, Agenda.connected_mem_said.mpr ⟨hid, rfl⟩, ?_⟩
    intro ok hmem
    exact (Agenda.firstByte_mem_said.mp hmem).2.1 hfirst
  · rw [if_neg hfirst] at hevent
    split at hevent
    · next hends =>
      cases hevent
      simp only [Bool.and_eq_true, Bool.not_eq_true'] at hends
      refine ⟨Agenda.firstByte_mem_said.mpr ⟨hid, hfirst, hends.1.1.symm⟩, ?_⟩
      intro hmem
      exact Bool.false_ne_true (hends.1.2.symm.trans (Agenda.disconnected_mem_said.mp hmem).2.2)
    · cases hevent

theorem onEvent_carried {event : WorkerEvent} (hid : id < definition.threads.toNat)
    (hevent : Task.eventOf id (done.readings id) timed = some event) :
    (carried definition done).coordinator.tracker.onEvent event =
      ((carried definition (done ++ [.reads id timed])).coordinator.tracker,
        Tracker.answer definition.threads.toNat (Agenda.said definition.threads.toNat
          (done ++ [.reads id timed])) event) := by
  have hmem : ∀ other, other ∈ Agenda.said definition.threads.toNat
        (done ++ [.reads id timed]) ↔
      other ∈ done.said definition.threads.toNat ++ [event] := by
    intro other
    rw [mem_said_concat hid, hevent, Option.toList_some]
  have hworkers : 0 < definition.threads.toNat := Nat.lt_of_le_of_lt (Nat.zero_le id) hid
  simp only [carried]
  rw [Tracker.onEvent_ofLog Agenda.consistent_said (admits_eventOf hid hevent) hworkers,
    Tracker.ofLog_congr hmem, Tracker.answer_congr hmem]

theorem tasks_set :
    (carried definition done).tasks.set id (Task.ofReadings id (done.readings id ++ [timed])) =
      (carried definition (done ++ [.reads id timed])).tasks := by
  apply List.ext_getElem
  · simp [carried]
  · intro index hleft hright
    by_cases hindex : id = index
    · simp [carried, hindex, Agenda.readings_concat]
    · simp [carried, hindex, Agenda.readings_concat]

theorem carried_quiet (hid : id < definition.threads.toNat)
    (hquiet : Task.eventOf id (done.readings id) timed = none) :
    (carried definition (done ++ [.reads id timed])).coordinator =
        (carried definition done).coordinator ∧
      Agenda.verdict? definition (done ++ [.reads id timed]) = done.verdict? definition := by
  have hbegun : done.readings id ≠ [] := by
    intro hfirst
    rw [Task.eventOf, if_pos hfirst] at hquiet
    cases hquiet
  have hsame : ∀ event, event ∈ Agenda.said definition.threads.toNat
      (done ++ [.reads id timed]) ↔ event ∈ done.said definition.threads.toNat := by
    intro event
    rw [mem_said_concat hid, hquiet, Option.toList_none, List.append_nil]
  constructor
  · simp only [carried, Tracker.ofLog_congr hsame, Agenda.window?_later hbegun]
  · have hcloses : (∀ other ∈ done.downloading definition.threads.toNat,
          (Agenda.readings other (done ++ [.reads id timed])).closes = true) ↔
        ∀ other ∈ done.downloading definition.threads.toNat,
          (done.readings other).closes = true := by
      refine forall₂_congr fun other hmem => ?_
      obtain ⟨hother, hdelivers⟩ := List.mem_filter.mp hmem
      have hiff := hsame (.disconnected other)
      rw [Agenda.disconnected_mem_said, Agenda.disconnected_mem_said] at hiff
      have hstill : (Agenda.readings other (done ++ [.reads id timed])).delivers = true := by
        rw [← Agenda.downloading_later hbegun] at hmem
        exact (List.mem_filter.mp hmem).2
      simpa [List.mem_range.mp hother, hdelivers, hstill] using hiff
    simp only [Agenda.verdict?, Agenda.answered_later hbegun, Agenda.downloading_later hbegun,
      Agenda.settledAt_later hbegun, hcloses]

section Reported

variable {event : WorkerEvent} (hid : id < definition.threads.toNat)
  (hevent : Task.eventOf id (done.readings id) timed = some event)
include hid hevent

/-- The last first-byte outcome opens the window, or shows that there is nothing to measure. -/
theorem onEvent_first (hlate : ∀ appointment ∈ done, appointment.time ≤ timed.time)
    (hfirst : done.readings id = []) :
    (carried definition done).coordinator.onEvent definition timed.time event =
      ((carried definition (done ++ [.reads id timed])).coordinator,
        (Agenda.verdict? definition (done ++ [.reads id timed])).elim .proceed .conclude) := by
  have hworkers : 0 < definition.threads.toNat := Nat.lt_of_le_of_lt (Nat.zero_le id) hid
  have hclosed : (carried definition done).coordinator.window = none :=
    Agenda.window?_of_waiting fun h => h id hid hfirst
  have hsettled := Agenda.settledAt_first hlate hid hfirst
  have hanswer := onEvent_carried hid hevent
  rw [Task.eventOf, if_pos hfirst] at hevent
  cases hevent
  generalize done ++ [.reads id timed] = next at *
  have htracker : (carried definition next).coordinator =
      ⟨(carried definition next).coordinator.tracker, next.window? definition⟩ := rfl
  rw [Coordinator.onEvent, hanswer, htracker]
  simp only [Tracker.answer, Agenda.settled_said hworkers, Agenda.downloadingOf_said, hclosed]
  by_cases hanswered : next.Answered definition.threads.toNat
  · by_cases hdown : next.downloading definition.threads.toNat = []
    · rw [Agenda.window?_of_silent hdown, Agenda.verdict?_of_silent hanswered hdown]
      simp only [hanswered, hdown, if_true, Option.elim_some]
    · have hgone : (carried definition next).coordinator.tracker.allDisconnected = decide
          (∀ id ∈ next.downloading definition.threads.toNat, (next.readings id).closes) := by
        refine (Tracker.allDisconnected_ofLog Agenda.consistent_said hworkers).trans ?_
        rw [decide_eq_decide, Agenda.allGone_said hworkers, and_iff_right hanswered]
      rw [Agenda.window?_of_open hanswered hdown, Agenda.verdict?_of_open hanswered hdown, hsettled]
      simp only [hanswered, hdown, if_true, if_false, hgone, decide_eq_true_iff]
      split <;> rfl
  · rw [Agenda.window?_of_waiting hanswered, Agenda.verdict?_of_waiting hanswered]
    simp only [hanswered, if_false, Option.elim_none]

/-- The last disconnection concludes the run, unless some outcome is still missing. -/
theorem onEvent_later (hbegun : done.readings id ≠ []) :
    (carried definition done).coordinator.onEvent definition timed.time event =
      ((carried definition (done ++ [.reads id timed])).coordinator,
        (Agenda.verdict? definition (done ++ [.reads id timed])).elim .proceed .conclude) := by
  have hworkers : 0 < definition.threads.toNat := Nat.lt_of_le_of_lt (Nat.zero_le id) hid
  have hwindow : (carried definition done).coordinator.window =
      Agenda.window? definition (done ++ [.reads id timed]) :=
    (Agenda.window?_later hbegun definition).symm
  have hdown : Agenda.downloading definition.threads.toNat (done ++ [.reads id timed]) =
      done.downloading definition.threads.toNat :=
    Agenda.downloading_later hbegun
  have hanswer := onEvent_carried hid hevent
  rw [Task.eventOf, if_neg hbegun] at hevent
  split at hevent
  · next hends =>
    cases hevent
    simp only [Bool.and_eq_true, Bool.not_eq_true'] at hends
    have hsome : done.downloading definition.threads.toNat ≠ [] :=
      List.ne_nil_of_mem (List.mem_filter.mpr ⟨List.mem_range.mpr hid, hends.1.1⟩)
    rw [← hdown] at hsome
    generalize done ++ [.reads id timed] = next at *
    have htracker : (carried definition next).coordinator =
        ⟨(carried definition next).coordinator.tracker, next.window? definition⟩ := rfl
    rw [Coordinator.onEvent, hanswer, htracker]
    simp only [Tracker.answer, Agenda.allGone_said hworkers, hwindow]
    by_cases hanswered : next.Answered definition.threads.toNat
    · rw [Agenda.verdict?_of_open hanswered hsome, Agenda.window?_of_open hanswered hsome]
      by_cases hall : ∀ id ∈ next.downloading definition.threads.toNat,
          (next.readings id).closes = true
      · simp only [if_pos hall, if_pos (And.intro hanswered hall), Coordinator.windowStart, hwindow,
          Agenda.window?_of_open hanswered hsome, Option.elim_some]
      · simp only [if_neg hall, if_neg fun h : _ ∧ _ => hall h.2, Option.elim_none]
    · rw [Agenda.verdict?_of_waiting hanswered]
      simp only [if_neg fun h : _ ∧ _ => hanswered h.1, Option.elim_none]
  · cases hevent

end Reported

theorem happen_carried (hverdict : done.verdict? definition = none)
    (hlate : ∀ appointment ∈ done, appointment.time ≤ timed.time) :
    (carried definition done).happen timed.time id (.read timed.reading) =
      (carried definition (done ++ [.reads id timed]),
        Agenda.verdict? definition (done ++ [.reads id timed])) := by
  by_cases hid : id < definition.threads.toNat
  · have htask : (carried definition done).tasks[id]? =
        some (Task.ofReadings id (done.readings id)) := by
      simp [carried, hid]
    rw [happen, htask]
    simp only [Task.happen_ofReadings, tasks_set]
    cases hevent : Task.eventOf id (done.readings id) timed with
    | none =>
      obtain ⟨hcoordinator, hsame⟩ := carried_quiet hid hevent
      rw [hsame, hverdict]
      simp only [← hcoordinator]
      rfl
    | some event =>
      have honEvent : (carried definition done).coordinator.onEvent definition timed.time event =
          ((carried definition (done ++ [.reads id timed])).coordinator,
            (Agenda.verdict? definition (done ++ [.reads id timed])).elim .proceed .conclude) := by
        by_cases hfirst : done.readings id = []
        · exact onEvent_first hid hevent hlate hfirst
        · exact onEvent_later hid hevent hfirst
      simp only [report, carried_definition, honEvent]
      cases Agenda.verdict? definition (done ++ [.reads id timed]) <;> rfl
  · have htask : (carried definition done).tasks[id]? = none := by
      simp [carried, Nat.le_of_not_lt hid]
    have hsame : ∀ other < definition.threads.toNat,
        Agenda.readings other (done ++ [.reads id timed]) = done.readings other :=
      readings_stranger (Nat.le_of_not_lt hid)
    rw [happen, htask, carried_congr hsame, Agenda.verdict?_congr hsame, hverdict]

end Happen

end Download

end Throughput
