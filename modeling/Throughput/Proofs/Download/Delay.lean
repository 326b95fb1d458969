import Throughput.Proofs.Download.Overture
import Throughput.Proofs.Download.Ending
import Throughput.Proofs.Worker.Task

/-!
# Delayed downloads

A download whose requests go out later does the same, only later. It does not matter either why one
of its workers has failed. So the state of such a download trails that of another one, from reading
to reading, up to the end.
-/

namespace Throughput

open Agenda

def Window.delay (lag : Nat) (window : Window) : Window :=
  ⟨window.start + lag, window.stop + lag⟩

theorem Window.delay_ofDefinition (lag : Nat) (definition : DownloadDefinition) (now : Nat) :
    ofDefinition definition (now + lag) = (ofDefinition definition now).delay lag := by
  simp only [ofDefinition, delay, Window.mk.injEq]
  omega

def Worker.delay (lag : Nat) (worker : Worker) : Worker :=
  { worker with started := worker.started.map (· + lag) }

def Task.delay (lag : Nat) (task : Task) : Task :=
  { task with worker := task.worker.delay lag }

/-- A task that is over, and whose worker has nothing to show. -/
structure Task.Lost (id : Nat) (task : Task) : Prop where
  phase : task.phase = .done
  id : task.worker.id = id
  state : task.worker.state = .failed
  samples : task.worker.samples = []

/-- One task does what the other has done before, or nothing more will be heard of either. -/
inductive Task.Trails (lag : Nat) : Task → Task → Prop
  | delayed {task : Task} : task.worker.started.isSome = true → Trails lag (task.delay lag) task
  | lost {id : Nat} {late early : Task} : late.Lost id → early.Lost id → Trails lag late early

structure Coordinator.Trails (lag : Nat) (late early : Coordinator) : Prop where
  transfers : late.tracker.transfers = early.tracker.transfers
  disconnected : late.tracker.disconnected = early.tracker.disconnected
  window : late.window = early.window.map (Window.delay lag)

structure Download.Trails (lag : Nat) (late early : Download) : Prop where
  definition : late.definition = early.definition
  coordinator : late.coordinator.Trails lag early.coordinator
  tasks : List.Forall₂ (Task.Trails lag) late.tasks early.tasks

structure DownloadEnd.Trails (lag : Nat) (late early : DownloadEnd) : Prop where
  download : late.download.Trails lag early.download
  time : late.time = early.time + lag
  windowStart : late.windowStart = early.windowStart.map (· + lag)

section Workers

variable {lag now : Nat} {worker : Worker} (hstarted : worker.started.isSome = true)
include hstarted

theorem Worker.elapsed_delay : (worker.delay lag).elapsed (now + lag) = worker.elapsed now := by
  obtain ⟨started, hsome⟩ := Option.isSome_iff_exists.mp hstarted
  simp only [elapsed, delay, hsome, Option.map_some, Option.getD_some]
  omega

theorem Worker.readFirst_delay (reading : Reading) :
    (worker.delay lag).readFirst (now + lag) reading = (worker.readFirst now reading).delay lag ∧
      (worker.readFirst now reading).started.isSome = true := by
  have helapsed := @elapsed_delay lag now worker hstarted
  rcases reading with (_ | count) | _ | _
  · exact ⟨rfl, hstarted⟩
  · simp only [readFirst, record, helapsed]
    exact ⟨rfl, hstarted⟩
  · exact ⟨rfl, hstarted⟩
  · exact ⟨rfl, hstarted⟩

theorem Worker.readNext_delay (reading : Reading) :
    (worker.delay lag).readNext (now + lag) reading = (worker.readNext now reading).delay lag ∧
      (worker.readNext now reading).started.isSome = true := by
  have helapsed := @elapsed_delay lag now worker hstarted
  rcases reading with (_ | count) | _ | _
  · exact ⟨rfl, hstarted⟩
  · simp only [readNext, record, helapsed]
    exact ⟨rfl, hstarted⟩
  · exact ⟨rfl, hstarted⟩
  · exact ⟨rfl, hstarted⟩

end Workers

namespace Task

variable {lag now : Nat}

theorem settle_delay (worker : Worker) : settle (worker.delay lag) = (settle worker).delay lag := by
  have hstate : (worker.delay lag).state = worker.state := rfl
  simp only [settle, hstate]
  split <;> rfl

theorem started_settle (worker : Worker) : (settle worker).worker.started = worker.started := by
  rw [settle]
  split <;> rfl

/-- A task that reads later reads the same, and its report is the same. -/
theorem happen_delay {task : Task} (hstarted : task.worker.started.isSome = true)
    (reading : Reading) :
    (task.delay lag).happen (now + lag) (.read reading) =
        ((task.happen now (.read reading)).1.delay lag, (task.happen now (.read reading)).2) ∧
      (task.happen now (.read reading)).1.worker.started.isSome = true := by
  obtain ⟨worker, phase⟩ := task
  cases phase with
  | firstByte =>
    obtain ⟨hread, hstill⟩ := @Worker.readFirst_delay lag now worker hstarted reading
    have hphase : Task.delay lag ⟨worker, .firstByte⟩ = ⟨worker.delay lag, .firstByte⟩ := rfl
    rw [hphase]
    simp only [happen, onFirstRead, hread]
    have hstate : ((worker.readFirst now reading).delay lag).state =
        (worker.readFirst now reading).state := rfl
    simp only [hstate]
    split
    · exact ⟨rfl, hstill⟩
    · simp only [settle_delay, started_settle]
      exact ⟨rfl, hstill⟩
  | bytes =>
    obtain ⟨hread, hstill⟩ := @Worker.readNext_delay lag now worker hstarted reading
    have hphase : Task.delay lag ⟨worker, .bytes⟩ = ⟨worker.delay lag, .bytes⟩ := rfl
    rw [hphase]
    simp only [happen, onRead, hread]
    have hstate : ((worker.readNext now reading).delay lag).state =
        (worker.readNext now reading).state := rfl
    simp only [hstate]
    split <;> exact ⟨rfl, hstill⟩
  | command => exact ⟨rfl, hstarted⟩
  | connection => exact ⟨rfl, hstarted⟩
  | request => exact ⟨rfl, hstarted⟩
  | done => exact ⟨rfl, hstarted⟩

theorem Lost.happen {id : Nat} {task : Task} (h : task.Lost id) (happening : Happening) :
    task.happen now happening = (task, none) := by
  obtain ⟨worker, phase⟩ := task
  obtain rfl : phase = .done := h.phase
  cases happening <;> rfl

theorem Trails.happen {late early : Task} (h : Trails lag late early) (reading : Reading) :
    Trails lag (late.happen (now + lag) (.read reading)).1 (early.happen now (.read reading)).1 ∧
      (late.happen (now + lag) (.read reading)).2 = (early.happen now (.read reading)).2 := by
  cases h with
  | delayed hstarted =>
    obtain ⟨hhappen, hstill⟩ := @happen_delay lag now _ hstarted reading
    rw [hhappen]
    exact ⟨.delayed hstill, rfl⟩
  | lost hlate hearly =>
    rw [hlate.happen, hearly.happen]
    exact ⟨.lost hlate hearly, rfl⟩

/-- What is reported while bytes are awaited is not about the connection. -/
theorem isConnected_happen {task : Task} {reading : Reading} {event : WorkerEvent}
    (hevent : (task.happen now (.read reading)).2 = some event) : event.isConnected = false := by
  obtain ⟨worker, phase⟩ := task
  cases phase with
  | firstByte =>
    simp only [Task.happen, onFirstRead] at hevent
    split at hevent <;> cases hevent <;> rfl
  | bytes =>
    simp only [Task.happen, onRead] at hevent
    split at hevent <;> cases hevent
    rfl
  | command => cases hevent
  | connection => cases hevent
  | request => cases hevent
  | done => cases hevent

end Task

def Decision.delay (lag : Nat) : Decision → Decision
  | .proceed => .proceed
  | .begin workers => .begin workers
  | .conclude outcome => .conclude (outcome.map (· + lag))

namespace Coordinator.Trails

variable {lag now : Nat} {late early : Coordinator} (h : late.Trails lag early)
include h

theorem windowStart_eq : late.windowStart = early.windowStart.map (· + lag) := by
  rw [windowStart, h.window, windowStart]
  cases early.window <;> rfl

theorem expired?_eq : late.expired? (now + lag) = (early.expired? now).map (Window.delay lag) := by
  rw [expired?, h.window, expired?]
  cases early.window with
  | none => rfl
  | some window =>
    have hstop : window.stop + lag ≤ now + lag ↔ window.stop ≤ now := Nat.add_le_add_iff_right
    simp only [Option.map_some, Window.delay, hstop]
    split <;> rfl

theorem onEvent (definition : DownloadDefinition) {event : WorkerEvent}
    (hevent : event.isConnected = false) :
    (late.onEvent definition (now + lag) event).1.Trails lag
        (early.onEvent definition now event).1 ∧
      (late.onEvent definition (now + lag) event).2 =
        (early.onEvent definition now event).2.delay lag := by
  obtain ⟨⟨lateHandshakes, transfers, lateConnected, gone⟩, lateWindow⟩ := late
  obtain ⟨⟨earlyHandshakes, earlyTransfers, earlyConnected, earlyGone⟩, window⟩ := early
  obtain ⟨htransfers, hgone, hwindow⟩ := h
  simp only at htransfers hgone hwindow
  subst htransfers hgone hwindow
  have hall : ∀ (transfers : Latch) (gone : Nat),
      Tracker.allDisconnected ⟨lateHandshakes, transfers, lateConnected, gone⟩ =
        Tracker.allDisconnected ⟨earlyHandshakes, transfers, earlyConnected, gone⟩ :=
    fun _ _ => rfl
  cases event with
  | connected id ok => cases hevent
  | firstByte id ok =>
    simp only [Coordinator.onEvent, Tracker.onEvent, Tracker.onFirstByte]
    rcases transfers.record ok with ⟨transfers, _ | tally⟩
    · exact ⟨⟨rfl, rfl, rfl⟩, rfl⟩
    · dsimp only
      cases tally.noneSucceeded with
      | true => exact ⟨⟨rfl, rfl, rfl⟩, rfl⟩
      | false =>
        simp only [Bool.false_eq_true, if_false, Window.delay_ofDefinition, hall]
        refine ⟨⟨rfl, rfl, rfl⟩, ?_⟩
        cases Tracker.allDisconnected ⟨earlyHandshakes, transfers, earlyConnected, gone⟩ <;> rfl
  | disconnected id =>
    simp only [Coordinator.onEvent, Tracker.onEvent, Tracker.onDisconnected, hall]
    cases Tracker.allDisconnected ⟨earlyHandshakes, transfers, earlyConnected, gone + 1⟩ with
    | true =>
      refine ⟨⟨rfl, rfl, rfl⟩, ?_⟩
      cases window <;> rfl
    | false => exact ⟨⟨rfl, rfl, rfl⟩, rfl⟩

end Coordinator.Trails

namespace Task

variable {lag : Nat} {late early : Task}

theorem obey_delay (task : Task) (command : Command) :
    (task.delay lag).obey command = (task.obey command).delay lag ∧
      (task.obey command).worker.started = task.worker.started := by
  obtain ⟨worker, phase⟩ := task
  cases phase <;> cases command <;> exact ⟨rfl, rfl⟩

theorem Trails.obey (h : Trails lag late early) (command : Command) :
    Trails lag (late.obey command) (early.obey command) := by
  cases h with
  | delayed hstarted =>
    obtain ⟨hobey, hstill⟩ := @obey_delay lag early command
    rw [hobey]
    exact .delayed (hstill ▸ hstarted)
  | lost hlate hearly =>
    rw [obey_of_done hlate.phase, obey_of_done hearly.phase]
    exact .lost hlate hearly

theorem Trails.id_eq (h : Trails lag late early) : late.worker.id = early.worker.id := by
  cases h with
  | delayed => rfl
  | lost hlate hearly => rw [hlate.id, hearly.id]

end Task

namespace Download.Trails

variable {lag now : Nat} {late early : Download} (h : late.Trails lag early)
include h

theorem command (command : Command) (workers : List Nat) :
    (late.command command workers).Trails lag (early.command command workers) where
  definition := h.definition
  coordinator := h.coordinator
  tasks := by
    refine List.forall₂_map_left_iff.mpr (List.forall₂_map_right_iff.mpr ?_)
    refine h.tasks.imp fun late early htrails => ?_
    rw [htrails.id_eq]
    split
    · exact htrails.obey command
    · exact htrails

theorem report {event : WorkerEvent} (hevent : event.isConnected = false) :
    (late.report (now + lag) event).1.Trails lag (early.report now event).1 ∧
      (late.report (now + lag) event).2 =
        (early.report now event).2.map (Except.map (· + lag)) := by
  obtain ⟨hcoordinator, hdecision⟩ :=
    @Coordinator.Trails.onEvent lag now _ _ h.coordinator early.definition event hevent
  rw [Download.report, Download.report, h.definition]
  generalize late.coordinator.onEvent early.definition (now + lag) event = answer at *
  generalize early.coordinator.onEvent early.definition now event = earlier at *
  obtain ⟨coordinator, decision⟩ := answer
  obtain ⟨other, decided⟩ := earlier
  simp only at hcoordinator hdecision
  subst hdecision
  have hnoted : Trails lag ⟨early.definition, coordinator, late.tasks⟩
      ⟨early.definition, other, early.tasks⟩ := ⟨rfl, hcoordinator, h.tasks⟩
  cases decided with
  | proceed => exact ⟨hnoted, rfl⟩
  | conclude outcome => exact ⟨hnoted, rfl⟩
  | begin workers => exact ⟨hnoted.command .beginTransfer workers, rfl⟩

theorem getElem?_tasks (id : Nat) :
    Option.Rel (Task.Trails lag) late.tasks[id]? early.tasks[id]? := by
  have htasks := h.tasks
  generalize late.tasks = left at htasks
  generalize early.tasks = right at htasks
  induction htasks generalizing id with
  | nil => exact .none
  | cons hfirst _ ih =>
    cases id with
    | zero => exact .some hfirst
    | succ id => exact ih id

theorem set {left right : Task} (htrails : left.Trails lag right) (id : Nat) :
    Trails lag { late with tasks := late.tasks.set id left }
      { early with tasks := early.tasks.set id right } where
  definition := h.definition
  coordinator := h.coordinator
  tasks := by
    have htasks := h.tasks
    simp only
    generalize late.tasks = left at htasks
    generalize early.tasks = right at htasks
    induction htasks generalizing id with
    | nil => exact .nil
    | cons hfirst hrest ih =>
      cases id with
      | zero => exact .cons htrails hrest
      | succ id => exact .cons hfirst (ih id)

/-- One step: what is read later leads to the same. -/
theorem happen (id : Nat) (reading : Reading) :
    (late.happen (now + lag) id (.read reading)).1.Trails lag
        (early.happen now id (.read reading)).1 ∧
      (late.happen (now + lag) id (.read reading)).2 =
        (early.happen now id (.read reading)).2.map (Except.map (· + lag)) ∧
      late.eventOf (now + lag) id (.read reading) = early.eventOf now id (.read reading) := by
  have hrel := h.getElem?_tasks id
  rw [Download.happen, Download.happen, eventOf, eventOf]
  generalize late.tasks[id]? = left at *
  generalize early.tasks[id]? = right at *
  cases hrel with
  | none => exact ⟨h, rfl, rfl⟩
  | @some task other htrails =>
    obtain ⟨htask, hevent⟩ := @Task.Trails.happen lag now task other htrails reading
    have hset := h.set htask id
    have hquiet := @Task.isConnected_happen now other reading
    simp only [Option.bind_some, hevent]
    cases hsaid : (other.happen now (.read reading)).2 with
    | none => exact ⟨hset, rfl, trivial⟩
    | some event =>
      obtain ⟨hreport, houtcome⟩ := @report lag now _ _ hset event (hquiet hsaid)
      exact ⟨hreport, houtcome, trivial⟩

omit h in
/-- A part of an agenda that is passed through later could be passed through as it stands. -/
theorem passes {agenda : Agenda} {events : List WorkerEvent} {last : Download}
    (hplain : agenda.Plain) (hpasses : Passes late (delay lag agenda) events last)
    (h : late.Trails lag early) :
    ∃ other, Passes early agenda events other ∧ last.Trails lag other := by
  induction agenda generalizing late early events with
  | nil =>
    cases hpasses
    exact ⟨early, .nil _, h⟩
  | cons appointment agenda ih =>
    obtain ⟨hfirst, hrest⟩ := List.forall_mem_cons.mp hplain
    rcases hfirst with hcancel | ⟨id, timed, rfl⟩
    · obtain ⟨time, occurrence⟩ := appointment
      obtain rfl : occurrence = .cancel := hcancel
      cases hpasses
    · obtain ⟨htrails, houtcome, hevent⟩ := @happen lag timed.time _ _ h id timed.reading
      cases hpasses with
      | @cons _ next _ _ _ _ _ more hexpired hhappen hlater =>
        rw [hhappen] at htrails houtcome
        rw [h.coordinator.expired?_eq, Option.map_eq_none_iff] at hexpired
        have hsame : early.happen timed.time id (.read timed.reading) =
            ((early.happen timed.time id (.read timed.reading)).1, none) :=
          Prod.ext rfl (Option.map_eq_none_iff.mp houtcome.symm)
        obtain ⟨other, hother, hlast⟩ := ih hrest hlater htrails
        refine ⟨other, ?_, hlast⟩
        rw [hevent]
        exact .cons hexpired hsame hother

/-- All that comes later leads to the same end, only later. -/
theorem advance {agenda : Agenda} (hplain : agenda.Plain) (now : Nat) :
    DownloadEnd.Trails lag (late.advance (now + lag) (delay lag agenda))
      (early.advance now agenda) := by
  induction agenda generalizing late early now with
  | nil =>
    simp only [delay, List.map_nil, Download.advance, rest, h.coordinator.window]
    cases hwindow : early.coordinator.window with
    | none => exact ⟨h, rfl, h.coordinator.windowStart_eq⟩
    | some window => exact ⟨h, rfl, rfl⟩
  | cons appointment agenda ih =>
    obtain ⟨hfirst, hrest⟩ := List.forall_mem_cons.mp hplain
    obtain ⟨time, occurrence⟩ := appointment
    have hcons : delay lag (⟨time, occurrence⟩ :: agenda) =
        ⟨time + lag, occurrence⟩ :: delay lag agenda := rfl
    rw [hcons]
    simp only [Download.advance, h.coordinator.expired?_eq]
    cases hexpired : early.coordinator.expired? time with
    | some window => exact ⟨h, rfl, rfl⟩
    | none =>
      rcases hfirst with hcancel | ⟨id, timed, hreads⟩
      · obtain rfl : occurrence = .cancel := hcancel
        exact ⟨h, rfl, rfl⟩
      · cases hreads
        obtain ⟨htrails, houtcome, -⟩ := @happen lag timed.time _ _ h id timed.reading
        simp only [Option.map_none]
        generalize late.happen (timed.time + lag) id (.read timed.reading) = answer at *
        generalize early.happen timed.time id (.read timed.reading) = earlier at *
        obtain ⟨next, outcome⟩ := answer
        obtain ⟨other, decided⟩ := earlier
        simp only at htrails houtcome
        subst houtcome
        cases decided with
        | none => exact ih htrails hrest timed.time
        | some outcome => exact ⟨htrails, rfl, rfl⟩

end Download.Trails

end Throughput
