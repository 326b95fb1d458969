import Throughput.Download.Run

/-!
# Passing through an agenda

A run passes through a first part of its agenda, where nothing ends it, and stops at what comes
next. On the way its workers report events to the coordinator.
-/

namespace Throughput

namespace Download

/-- What a worker reports when something happens to it. -/
def eventOf (download : Download) (now id : Nat) (happening : Happening) : Option WorkerEvent :=
  download.tasks[id]?.bind fun task => (task.happen now happening).2

/-- The events that the coordinator is told of until the run is over. -/
def log (download : Download) : Agenda → List WorkerEvent
  | [] => []
  | appointment :: agenda =>
    match download.coordinator.expired? appointment.time, appointment.occurrence with
    | none, .worker id happening =>
      (download.eventOf appointment.time id happening).toList ++
        match download.happen appointment.time id happening with
        | (_, some _) => []
        | (next, none) => next.log agenda
    | _, _ => []

/-- Nothing on the agenda ends the run, which is told of some events and goes on. -/
inductive Passes : Download → Agenda → List WorkerEvent → Download → Prop
  | nil (download : Download) : Passes download [] [] download
  | cons {download next last : Download} {time id : Nat} {happening : Happening} {agenda : Agenda}
      {events : List WorkerEvent} :
      download.coordinator.expired? time = none →
      download.happen time id happening = (next, none) →
      Passes next agenda events last →
      Passes download (⟨time, .worker id happening⟩ :: agenda)
        ((download.eventOf time id happening).toList ++ events) last

/-- The run is over before or with the next appointment, or because there is none. -/
inductive Stops (download : Download) (now : Nat) : Agenda → List WorkerEvent → DownloadEnd → Prop
  | rests : Stops download now [] [] (download.rest now)
  | expires {appointment : Appointment} {agenda : Agenda} {window : Window} :
      download.coordinator.expired? appointment.time = some window →
      Stops download now (appointment :: agenda) [] ⟨download, window.stop, .ok window.start⟩
  | cancels {time : Nat} {agenda : Agenda} :
      download.coordinator.expired? time = none →
      Stops download now (⟨time, .cancel⟩ :: agenda) [] ⟨download, time, .error .cancelled⟩
  | concludes {next : Download} {time id : Nat} {happening : Happening} {agenda : Agenda}
      {outcome : Except MeasureError Nat} :
      download.coordinator.expired? time = none →
      download.happen time id happening = (next, some outcome) →
      Stops download now (⟨time, .worker id happening⟩ :: agenda)
        (download.eventOf time id happening).toList ⟨next, time, outcome⟩

def timeAfter (now : Nat) (done : Agenda) : Nat :=
  (done.getLast?.map Appointment.time).getD now

theorem timeAfter_cons (now : Nat) (appointment : Appointment) (done : Agenda) :
    timeAfter now (appointment :: done) = timeAfter appointment.time done := by
  rw [timeAfter, timeAfter, List.getLast?_cons]
  cases done.getLast? <;> rfl

theorem Passes.trans {first second third : Download} {done more : Agenda}
    {events others : List WorkerEvent} (h : Passes first done events second)
    (hmore : Passes second more others third) :
    Passes first (done ++ more) (events ++ others) third := by
  induction h with
  | nil => exact hmore
  | cons hexpired hhappen _ ih =>
    rw [List.cons_append, List.append_assoc]
    exact .cons hexpired hhappen (ih hmore)

theorem Passes.advance {first last : Download} {done : Agenda} {events : List WorkerEvent}
    (h : Passes first done events last) (now : Nat) (rest : Agenda) :
    first.advance now (done ++ rest) = last.advance (timeAfter now done) rest ∧
      first.log (done ++ rest) = events ++ last.log rest := by
  induction h generalizing now with
  | nil => exact ⟨rfl, rfl⟩
  | @cons download next last time id happening agenda events hexpired hhappen _ ih =>
    obtain ⟨hadvance, hlog⟩ := ih time
    rw [timeAfter_cons, ← hadvance, List.append_assoc, ← hlog]
    constructor
    · simp only [List.cons_append, Download.advance, hexpired, hhappen]
    · simp only [List.cons_append, log, hexpired, hhappen]

/-- Every run passes through some part of its agenda and stops. -/
theorem exists_passes (download : Download) (now : Nat) (agenda : Agenda) :
    ∃ done rest events final last, agenda = done ++ rest ∧ Passes download done events last ∧
      Stops last (timeAfter now done) rest final (download.advance now agenda) ∧
      download.log agenda = events ++ final := by
  -- The cases are those of `advance`. Only a happening that concludes nothing leads on.
  induction agenda generalizing download now with
  | nil => exact ⟨[], [], [], [], download, rfl, .nil _, .rests, rfl⟩
  | cons appointment agenda ih =>
    obtain ⟨time, occurrence⟩ := appointment
    cases hexpired : download.coordinator.expired? time with
    | some window =>
      refine ⟨[], _, [], [], download, rfl, .nil _, ?_, ?_⟩
      · simpa only [Download.advance, hexpired] using Stops.expires hexpired
      · simp only [log, hexpired, List.append_nil]
    | none =>
      cases occurrence with
      | cancel =>
        refine ⟨[], _, [], [], download, rfl, .nil _, ?_, ?_⟩
        · simpa only [Download.advance, hexpired] using Stops.cancels hexpired
        · simp only [log, hexpired, List.append_nil]
      | worker id happening =>
        rcases hhappen : download.happen time id happening with ⟨next, _ | outcome⟩
        · obtain ⟨done, rest, events, final, last, hagenda, hpasses, hstops, hlog⟩ := ih next time
          refine ⟨⟨time, .worker id happening⟩ :: done, rest, _, final, last, ?_,
            .cons hexpired hhappen hpasses, ?_, ?_⟩
          · rw [hagenda, List.cons_append]
          · rw [timeAfter_cons]
            simpa only [Download.advance, hexpired, hhappen] using hstops
          · simp only [log, hexpired, hhappen, hlog, List.append_assoc]
        · refine ⟨[], _, [], (download.eventOf time id happening).toList, download, rfl, .nil _, ?_,
            ?_⟩
          · simpa only [Download.advance, hexpired, hhappen] using
              Stops.concludes hexpired hhappen
          · simp only [log, hexpired, hhappen, List.append_nil, List.nil_append]

/-! ### What the coordinator is told -/

def told (tracker : Tracker) (events : List WorkerEvent) : Tracker :=
  events.foldl (fun tracker event => (tracker.onEvent event).1) tracker

theorem tracker_onEvent (coordinator : Coordinator) (definition : DownloadDefinition) (now : Nat)
    (event : WorkerEvent) :
    (coordinator.onEvent definition now event).1.tracker =
      (coordinator.tracker.onEvent event).1 := by
  rw [Coordinator.onEvent]
  rcases coordinator.tracker.onEvent event with ⟨tracker, _ | _ | _ | _ | _⟩ <;> rfl

theorem tracker_report (download : Download) (now : Nat) (event : WorkerEvent) :
    (download.report now event).1.coordinator.tracker =
      (download.coordinator.tracker.onEvent event).1 := by
  rw [← tracker_onEvent download.coordinator download.definition now event, report]
  rcases download.coordinator.onEvent download.definition now event with
    ⟨coordinator, _ | _ | _⟩ <;> rfl

theorem tracker_happen (download : Download) (now id : Nat) (happening : Happening) :
    (download.happen now id happening).1.coordinator.tracker =
      told download.coordinator.tracker (download.eventOf now id happening).toList := by
  rw [happen, eventOf]
  cases download.tasks[id]? with
  | none => rfl
  | some task =>
    simp only [Option.bind_some]
    cases (task.happen now happening).2 with
    | none => rfl
    | some event => exact tracker_report _ _ _

theorem tracker_passes {first last : Download} {done : Agenda} {events : List WorkerEvent}
    (h : Passes first done events last) :
    last.coordinator.tracker = told first.coordinator.tracker events := by
  induction h with
  | nil => rfl
  | @cons download next last time id happening agenda events _ hhappen _ ih =>
    have hnext := tracker_happen download time id happening
    rw [hhappen] at hnext
    rw [ih, told, told, List.foldl_append]
    exact congrArg (events.foldl _) hnext

/-- The tracker of a run has been told of the events in its log and of no other. -/
theorem tracker_advance (download : Download) (now : Nat) (agenda : Agenda) :
    (download.advance now agenda).download.coordinator.tracker =
      told download.coordinator.tracker (download.log agenda) := by
  obtain ⟨done, rest, events, final, last, -, hpasses, hstops, hlog⟩ :=
    download.exists_passes now agenda
  have hlast : (download.advance now agenda).download.coordinator.tracker =
      told last.coordinator.tracker final := by
    generalize download.advance now agenda = ending at hstops
    cases hstops with
    | rests =>
      rw [rest]
      split <;> rfl
    | expires => rfl
    | cancels => rfl
    | @concludes next time id happening agenda outcome _ hhappen =>
      have hnext := last.tracker_happen time id happening
      rwa [hhappen] at hnext
  rw [hlast, tracker_passes hpasses, hlog, told, told, told, List.foldl_append]

end Download

end Throughput
