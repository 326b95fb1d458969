import Throughput.Proofs.Download.Ending

/-!
# When a download ends

The end of a run, told from its whole agenda. The latest first-byte outcome opens the window, and
the run lasts until the window ends or the last downloading worker is closed.
-/

namespace Throughput

namespace Agenda

/-- The last downloading worker is closed, and no other byte can come. -/
def finishedAt (workers : Nat) (agenda : Agenda) : Nat :=
  max (agenda.settledAt workers)
    ((Finset.range workers).sup fun id =>
      if (agenda.readings id).delivers then (agenda.readings id).closingTime else 0)

def endOf (definition : DownloadDefinition) (agenda : Agenda) : Nat :=
  let workers := definition.threads.toNat
  let stop := (Window.ofDefinition definition (agenda.settledAt workers)).stop
  if agenda.downloading workers = [] then agenda.settledAt workers
  else if ∀ id ∈ agenda.downloading workers, (agenda.readings id).closes then
    min stop (agenda.finishedAt workers)
  else stop

section Prefix

variable {workers : Nat} {done rest : Agenda}

theorem downloading_append (hanswered : done.Answered workers) :
    downloading workers (done ++ rest) = done.downloading workers := by
  refine List.filter_congr fun id hmem => ?_
  rw [readings_append, Readings.delivers_append (hanswered id (List.mem_range.mp hmem))]

theorem settledAt_append (hanswered : done.Answered workers) :
    settledAt workers (done ++ rest) = done.settledAt workers := by
  refine Finset.sup_congr rfl fun id hmem => ?_
  rw [readings_append, Readings.firstTime_append (hanswered id (Finset.mem_range.mp hmem))]

theorem finishedAt_append (hanswered : done.Answered workers)
    (hclosed : ∀ id ∈ done.downloading workers, (done.readings id).closes = true) :
    finishedAt workers (done ++ rest) = done.finishedAt workers := by
  rw [finishedAt, settledAt_append hanswered, finishedAt]
  congr 1
  refine Finset.sup_congr rfl fun id hmem => ?_
  have hid := Finset.mem_range.mp hmem
  rw [readings_append, Readings.delivers_append (hanswered id hid)]
  by_cases hdelivers : (done.readings id).delivers = true
  · have hcloses := hclosed id (List.mem_filter.mpr ⟨List.mem_range.mpr hid, hdelivers⟩)
    rw [Readings.closingTime_append hcloses]
  · rw [if_neg hdelivers, if_neg hdelivers]

theorem settledAt_le_finishedAt (workers : Nat) (agenda : Agenda) :
    agenda.settledAt workers ≤ agenda.finishedAt workers :=
  Nat.le_max_left _ _

theorem closingTime_le_finishedAt {agenda : Agenda} {id : Nat}
    (hmem : id ∈ agenda.downloading workers) :
    (agenda.readings id).closingTime ≤ agenda.finishedAt workers := by
  obtain ⟨hid, hdelivers⟩ := List.mem_filter.mp hmem
  have hle := Finset.le_sup (f := fun id =>
    if (agenda.readings id).delivers then (agenda.readings id).closingTime else 0)
    (Finset.mem_range.mpr (List.mem_range.mp hid))
  simp only [hdelivers, if_true] at hle
  exact Nat.le_trans hle (Nat.le_max_right _ _)

theorem settledAt_le {time : Nat} (hlate : ∀ appointment ∈ done, appointment.time ≤ time) :
    done.settledAt workers ≤ time :=
  Finset.sup_le fun _ _ => firstTime_le hlate

theorem finishedAt_le {time : Nat} (hlate : ∀ appointment ∈ done, appointment.time ≤ time)
    (hclosed : ∀ id ∈ done.downloading workers, (done.readings id).closes = true) :
    done.finishedAt workers ≤ time := by
  refine Nat.max_le.mpr ⟨settledAt_le hlate, Finset.sup_le fun id hmem => ?_⟩
  split
  · next hdelivers =>
    have hcloses := hclosed id
      (List.mem_filter.mpr ⟨List.mem_range.mpr (Finset.mem_range.mp hmem), hdelivers⟩)
    obtain ⟨ending, hending, -, htime⟩ := Readings.exists_ending hcloses
    rw [← htime]
    exact hlate _ (mem_readings.mp hending)
  · exact Nat.zero_le _

end Prefix

section Verdict

variable {definition : DownloadDefinition} {done rest : Agenda}

theorem answered_of_verdict? {outcome : Except MeasureError Nat}
    (hverdict : done.verdict? definition = some outcome) :
    done.Answered definition.threads.toNat := by
  by_contra hwaiting
  rw [verdict?_of_waiting hwaiting] at hverdict
  cases hverdict

theorem closed_of_verdict? {outcome : Except MeasureError Nat}
    (hverdict : done.verdict? definition = some outcome) :
    ∀ id ∈ done.downloading definition.threads.toNat, (done.readings id).closes = true := by
  intro id hmem
  have hanswered := answered_of_verdict? hverdict
  rw [verdict?_of_open hanswered (List.ne_nil_of_mem hmem), Option.ite_none_right_eq_some]
    at hverdict
  exact hverdict.1 id hmem

/-- A run that is decided has no worker that downloads on. -/
theorem over_of_verdict? {outcome : Except MeasureError Nat}
    (hverdict : done.verdict? definition = some outcome) {id : Nat}
    (hid : id < definition.threads.toNat) :
    ((done.readings id).delivers && !(done.readings id).closes) = false := by
  cases hdelivers : (done.readings id).delivers with
  | false => rfl
  | true =>
    have hmem : id ∈ done.downloading definition.threads.toNat :=
      List.mem_filter.mpr ⟨List.mem_range.mpr hid, hdelivers⟩
    simp [closed_of_verdict? hverdict id hmem]

theorem endOf_append (hanswered : done.Answered definition.threads.toNat)
    (hclosed : ∀ id ∈ done.downloading definition.threads.toNat,
      (done.readings id).closes = true) :
    endOf definition (done ++ rest) = done.endOf definition := by
  have hstill : ∀ id ∈ done.downloading definition.threads.toNat,
      (readings id (done ++ rest)).closes = true := by
    intro id hmem
    rw [readings_append, Readings.closes_append, hclosed id hmem, Bool.true_or]
  simp only [endOf, downloading_append hanswered, settledAt_append hanswered,
    finishedAt_append hanswered hclosed, if_pos hclosed, if_pos hstill]

theorem readings_of_waiting {before : Agenda} {id : Nat} {timed : TimedReading}
    (hanswered : Answered definition.threads.toNat (before ++ [.reads id timed]))
    (hwaiting : ¬ before.Answered definition.threads.toNat) :
    id < definition.threads.toNat ∧ before.readings id = [] := by
  simp only [Answered, not_forall, ne_eq, not_not] at hwaiting
  obtain ⟨other, hother, hnil⟩ := hwaiting
  have hlast := hanswered other hother
  rw [readings_concat, hnil, List.nil_append] at hlast
  by_cases hid : id = other
  · exact ⟨hid ▸ hother, hid ▸ hnil⟩
  · rw [if_neg hid] at hlast
    exact absurd rfl hlast

theorem exists_open (hanswered : done.Answered definition.threads.toNat)
    (hdown : done.downloading definition.threads.toNat ≠ [])
    (hundecided : done.verdict? definition = none) :
    ∃ id ∈ done.downloading definition.threads.toNat, (done.readings id).closes = false := by
  by_contra hnone
  have hclosed : ∀ id ∈ done.downloading definition.threads.toNat,
      (done.readings id).closes = true := by
    intro id hmem
    by_contra hopen
    exact hnone ⟨id, hmem, Bool.eq_false_iff.mpr hopen⟩
  rw [verdict?_of_open hanswered hdown, if_pos hclosed] at hundecided
  cases hundecided

theorem exists_ending_of_open {id : Nat} (hopen : (done.readings id).closes = false)
    (hclosed : (readings id (done ++ rest)).closes = true) :
    ∃ ending ∈ rest.readings id, ending.time = (readings id (done ++ rest)).closingTime := by
  obtain ⟨ending, hending, hends, htime⟩ := Readings.exists_ending hclosed
  rw [readings_append] at hending
  rcases List.mem_append.mp hending with hmem | hlater
  · have hcloses : (done.readings id).closes = true := List.any_eq_true.mpr ⟨ending, hmem, hends⟩
    exact absurd (hopen.symm.trans hcloses) Bool.false_ne_true
  · exact ⟨ending, hlater, htime⟩

section Concluded

variable {before : Agenda} {id : Nat} {timed : TimedReading} {outcome : Except MeasureError Nat}
  (hundecided : before.verdict? definition = none)
  (hlate : ∀ appointment ∈ before, appointment.time ≤ timed.time)
  (hverdict : verdict? definition (before ++ [.reads id timed]) = some outcome)
include hundecided hlate hverdict

theorem time_of_silent
    (hsilent : downloading definition.threads.toNat (before ++ [.reads id timed]) = []) :
    timed.time = settledAt definition.threads.toNat (before ++ [.reads id timed]) := by
  have hanswered := answered_of_verdict? hverdict
  have hwaiting : ¬ before.Answered definition.threads.toNat := by
    intro hbefore
    rw [downloading_append hbefore] at hsilent
    rw [verdict?_of_silent hbefore hsilent] at hundecided
    cases hundecided
  obtain ⟨hid, hfirst⟩ := readings_of_waiting hanswered hwaiting
  exact (settledAt_first hlate hid hfirst).symm

theorem time_of_closed
    (hdown : downloading definition.threads.toNat (before ++ [.reads id timed]) ≠ []) :
    timed.time = finishedAt definition.threads.toNat (before ++ [.reads id timed]) := by
  have hanswered := answered_of_verdict? hverdict
  have hclosed := closed_of_verdict? hverdict
  apply Nat.le_antisymm
  · by_cases hbefore : before.Answered definition.threads.toNat
    · have hsame : downloading definition.threads.toNat (before ++ [.reads id timed]) =
          before.downloading definition.threads.toNat := downloading_append hbefore
      rw [hsame] at hdown hclosed
      obtain ⟨other, hother, hopen⟩ := exists_open hbefore hdown hundecided
      obtain ⟨ending, hending, htime⟩ := exists_ending_of_open hopen (hclosed other hother)
      have htimed : timed.time = ending.time :=
        (congrArg Appointment.time (List.mem_singleton.mp (mem_readings.mp hending))).symm
      calc
        timed.time = ending.time := htimed
        _ = _ := htime
        _ ≤ _ := closingTime_le_finishedAt (hsame ▸ hother)
    · obtain ⟨hid, hfirst⟩ := readings_of_waiting hanswered hbefore
      rw [← settledAt_first hlate hid hfirst]
      exact settledAt_le_finishedAt _ _
  · exact finishedAt_le (late_concat hlate) hclosed

end Concluded

end Verdict

end Agenda

open Agenda

/-- A run that goes on with every outcome known has its window, with which it ends if nothing else
happens. -/
theorem Underway.exists_window {definition : DownloadDefinition} {done : Agenda}
    (h : Underway definition done) (hanswered : done.Answered definition.threads.toNat) :
    ∃ window, done.window? definition = some window ∧ ∀ now,
      (Download.carried definition done).rest now =
        ⟨.carried definition done, window.stop, .ok window.start⟩ := by
  have hdown : done.downloading definition.threads.toNat ≠ [] := by
    intro hsilent
    have hverdict := verdict?_of_silent hanswered hsilent
    rw [h.undecided] at hverdict
    cases hverdict
  have hwindow := window?_of_open hanswered hdown
  have hcoordinator : (Download.carried definition done).coordinator.window = _ := hwindow
  refine ⟨_, hwindow, fun now => ?_⟩
  rw [Download.rest, hcoordinator]

/-- A run that ends as its whole agenda foretells. -/
structure Foreseen (definition : DownloadDefinition) (agenda : Agenda) (ending : DownloadEnd) :
    Prop where
  time : ending.time = agenda.endOf definition
  windowStart : ending.windowStart =
    if agenda.downloading definition.threads.toNat = [] then .error .transfer
    else .ok (Window.ofDefinition definition (agenda.settledAt definition.threads.toNat)).start
  reports : agenda.downloading definition.threads.toNat ≠ [] →
    ending.reports = (List.range definition.threads.toNat).map fun id =>
      Worker.reported id ((agenda.readings id).before
        (Window.ofDefinition definition (agenda.settledAt definition.threads.toNat)).stop)

section Foreseen

variable {definition : DownloadDefinition} {done rest : Agenda}

theorem reports_carried {time : Nat} {windowStart : Except MeasureError Nat} :
    DownloadEnd.reports ⟨.carried definition done, time, windowStart⟩ =
      (List.range definition.threads.toNat).map fun id =>
        Worker.reported id (done.readings id) := by
  simp only [DownloadEnd.reports, Download.carried, List.map_map]
  rfl

theorem before_readings_append {stop : Nat}
    (hdone : ∀ appointment ∈ done, appointment.time < stop) (id : Nat) :
    (readings id (done ++ rest)).before stop =
      done.readings id ++ (rest.readings id).before stop := by
  rw [readings_append, Readings.before, List.filter_append, List.filter_eq_self.mpr]
  · rfl
  · intro timed hmem
    exact decide_eq_true (hdone _ (mem_readings.mp hmem))

theorem before_readings_eq_nil {stop : Nat}
    (hrest : ∀ appointment ∈ rest, stop ≤ appointment.time) (id : Nat) :
    (rest.readings id).before stop = [] := by
  rw [Readings.before, List.filter_eq_nil_iff]
  intro timed hmem
  have hle : stop ≤ timed.time := hrest _ (mem_readings.mp hmem)
  simpa using hle

theorem foreseen_expired {window : Window} (hunderway : Underway definition done)
    (hwindow : done.window? definition = some window)
    (hrest : ∀ appointment ∈ rest, window.stop ≤ appointment.time) :
    Foreseen definition (done ++ rest)
      ⟨.carried definition done, window.stop, .ok window.start⟩ := by
  have htimely := hunderway.timely window hwindow
  obtain ⟨hanswered, hdown, rfl⟩ := window?_eq_some.mp hwindow
  have hsome : downloading definition.threads.toNat (done ++ rest) ≠ [] := by
    rwa [downloading_append hanswered]
  refine ⟨?_, ?_, fun _ => ?_⟩
  · rw [endOf, if_neg hsome, settledAt_append hanswered]
    split
    · next hclosed =>
      -- One stream is still open, and its end comes after that of the window.
      obtain ⟨id, hid, hopen⟩ := exists_open hanswered hdown hunderway.undecided
      have hstill : id ∈ downloading definition.threads.toNat (done ++ rest) := by
        rwa [downloading_append hanswered]
      obtain ⟨ending, hending, htime⟩ := exists_ending_of_open hopen (hclosed id hstill)
      have hlate := hrest _ (mem_readings.mp hending)
      refine (Nat.min_eq_left ?_).symm
      calc
        _ ≤ ending.time := hlate
        _ = _ := htime
        _ ≤ _ := closingTime_le_finishedAt hstill
    · rfl
  · rw [if_neg hsome, settledAt_append hanswered]
  · rw [reports_carried, settledAt_append hanswered]
    refine List.map_congr_left fun id _ => ?_
    rw [before_readings_append htimely, before_readings_eq_nil hrest, List.append_nil]

theorem foreseen_concluded {before : Agenda} {id : Nat} {timed : TimedReading}
    {outcome : Except MeasureError Nat} (htarget : 0 < definition.targetTime.toNat)
    (hascending : Ascending Appointment.time (before ++ .reads id timed :: rest))
    (hunderway : Underway definition before)
    (hopen : ∀ window, before.window? definition = some window → timed.time < window.stop)
    (hverdict : verdict? definition (before ++ [.reads id timed]) = some outcome) :
    Foreseen definition (before ++ [.reads id timed] ++ rest)
      ⟨.carried definition (before ++ [.reads id timed]), timed.time, outcome⟩ := by
  have hlate := hascending.le_of_before
  have hanswered := answered_of_verdict? hverdict
  have htimely : ∀ window, window? definition (before ++ [.reads id timed]) = some window →
      ∀ appointment ∈ before ++ [.reads id timed], appointment.time < window.stop :=
    timely_concat htarget hlate hopen
  have hsilent := time_of_silent hunderway.undecided hlate hverdict
  have hclosed := time_of_closed hunderway.undecided hlate hverdict
  have hlast : Appointment.reads id timed ∈ before ++ [.reads id timed] := by simp
  -- From here on only what has been read matters, and not what was read last.
  generalize before ++ [.reads id timed] = done at *
  by_cases hdown : done.downloading definition.threads.toNat = []
  · have hnone : downloading definition.threads.toNat (done ++ rest) = [] := by
      rwa [downloading_append hanswered]
    rw [verdict?_of_silent hanswered hdown, Option.some.injEq] at hverdict
    refine ⟨?_, ?_, fun hsome => absurd hnone hsome⟩
    · rw [endOf, if_pos hnone, settledAt_append hanswered]
      exact hsilent hdown
    · rw [if_pos hnone, ← hverdict]
  · have hsome : downloading definition.threads.toNat (done ++ rest) ≠ [] := by
      rwa [downloading_append hanswered]
    have hwindow := window?_of_open hanswered hdown
    have hall := closed_of_verdict? hverdict
    have hover := @over_of_verdict? _ _ _ hverdict
    rw [verdict?_of_open hanswered hdown, if_pos hall, Option.some.injEq] at hverdict
    refine ⟨?_, ?_, fun _ => ?_⟩
    · rw [endOf_append hanswered hall, endOf, if_neg hdown, if_pos hall, ← hclosed hdown]
      exact (Nat.min_eq_right (Nat.le_of_lt (htimely _ hwindow _ hlast))).symm
    · rw [if_neg hsome, settledAt_append hanswered, ← hverdict]
    · rw [reports_carried, settledAt_append hanswered]
      refine List.map_congr_left fun other hmem => ?_
      have hid := List.mem_range.mp hmem
      rw [before_readings_append (htimely _ hwindow), Worker.reported, Worker.reported,
        Task.ofReadings_append (hanswered other hid) (hover hid)]

/-- Without a cancellation the end of a run follows from its agenda. -/
theorem Ends.foreseen {now : Nat} {ending : DownloadEnd}
    (hends : Ends definition now done rest ending) (htarget : 0 < definition.targetTime.toNat)
    (hascending : Ascending Appointment.time (done ++ rest))
    (hanswered : Answered definition.threads.toNat (done ++ rest))
    (hnever : ∀ appointment ∈ done ++ rest, appointment.occurrence ≠ .cancel) :
    Foreseen definition (done ++ rest) ending := by
  cases hends with
  | rests hunderway =>
    rw [List.append_nil] at hanswered
    obtain ⟨window, hwindow, hrest⟩ := hunderway.exists_window hanswered
    rw [hrest]
    exact foreseen_expired hunderway hwindow (by simp)
  | expires hunderway hwindow hstop =>
    refine foreseen_expired hunderway hwindow ?_
    intro other hmem
    rcases List.mem_cons.mp hmem with rfl | hlater
    · exact hstop
    · exact Nat.le_trans hstop (hascending.le_of_after other hlater)
  | cancels => exact absurd rfl (hnever _ (List.mem_append_right _ List.mem_cons_self))
  | concludes hdone hunderway hopen hverdict =>
    subst hdone
    exact foreseen_concluded htarget (by rwa [List.append_cons]) hunderway hopen hverdict

end Foreseen

namespace Agenda

/-- An agenda that nobody cancels, and on which every worker has its first-byte outcome. -/
structure Complete (workers : Nat) (agenda : Agenda) : Prop where
  ascending : Ascending Appointment.time agenda
  reads : ∀ appointment ∈ agenda, ∃ id timed, appointment = .reads id timed
  answered : agenda.Answered workers

variable {workers : Nat} {agenda : Agenda}

theorem Complete.plain (h : agenda.Complete workers) : agenda.Plain :=
  fun appointment hmem => Or.inr (h.reads appointment hmem)

theorem Complete.ne_cancel (h : agenda.Complete workers) :
    ∀ appointment ∈ agenda, appointment.occurrence ≠ .cancel := by
  intro appointment hmem
  obtain ⟨id, timed, rfl⟩ := h.reads appointment hmem
  exact Occurrence.noConfusion

end Agenda

/-- From its requests on, a run that nobody cancels does as its agenda foretells. -/
theorem Download.foreseen_advance {definition : DownloadDefinition} {agenda : Agenda}
    (hcomplete : agenda.Complete definition.threads.toNat)
    (hworkers : 0 < definition.threads.toNat) (htarget : 0 < definition.targetTime.toNat)
    (now : Nat) :
    Foreseen definition agenda ((Download.carried definition []).advance now agenda) := by
  obtain ⟨done, rest, rfl, hends, -⟩ :=
    exists_ends hworkers htarget now hcomplete.ascending hcomplete.plain
  exact hends.foreseen htarget hcomplete.ascending hcomplete.answered hcomplete.ne_cancel

end Throughput
