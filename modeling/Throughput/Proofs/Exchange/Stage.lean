import Throughput.Proofs.Exchange.Basic
import Throughput.Proofs.Tracker.Interleaving
import Throughput.Proofs.Worker.Readings

/-!
# Stages of a worker

Where a worker stands is told by its task, by what it has said so far, and by the commands that are
due: those in its channel and those the coordinator is about to send.
-/

namespace Throughput

/-- The order to stop comes last, and only once the run is over. -/
def stops (completed : Bool) : List Command :=
  if completed then [.stop] else []

/-- All that a worker is ever sent. -/
def planned (begun completed : Bool) : List Command :=
  .connect :: ((if begun then [.beginTransfer] else []) ++ stops completed)

/-- The worker has said all that it will ever say. -/
def Spoken (id : Nat) (log : List WorkerEvent) : Prop :=
  ∃ course : Course, course ≠ .downloads false ∧ log = course.stream id

inductive Stage (id : Nat) (begun : Prop) (completed : Bool) :
    Task → List WorkerEvent → List Command → Prop
  | waiting : Stage id begun completed (.ofId id) [] (.connect :: stops completed)
  | connecting {worker : Worker} (hid : worker.id = id) :
      Stage id begun completed ⟨worker, .connection⟩ [] (stops completed)
  | ready {worker : Worker} (hid : worker.id = id) (hstream : worker.holdsStream = true)
      (hbegun : ¬ begun) :
      Stage id begun completed ⟨worker, .command⟩ [.connected id true] (stops completed)
  | called {worker : Worker} (hid : worker.id = id) (hstream : worker.holdsStream = true)
      (hbegun : begun) :
      Stage id begun completed ⟨worker, .command⟩ [.connected id true]
        (.beginTransfer :: stops completed)
  | requesting {worker : Worker} (hid : worker.id = id) (hstream : worker.holdsStream = true)
      (hbegun : begun) :
      Stage id begun completed ⟨worker, .request⟩ [.connected id true] (stops completed)
  | awaiting {worker : Worker} (hid : worker.id = id) (hbegun : begun) :
      Stage id begun completed ⟨worker, .firstByte⟩ [.connected id true] (stops completed)
  | downloading {worker : Worker} (hid : worker.id = id) (hstate : worker.state = .downloading)
      (hbegun : begun) :
      Stage id begun completed ⟨worker, .bytes⟩ [.connected id true, .firstByte id true]
        (stops completed)
  | finished {worker : Worker} {log : List WorkerEvent} {due : List Command}
      (hdue : due <:+ stops completed) (hspoken : completed = false → Spoken id log)
      (hbegun : ∀ ok, .firstByte id ok ∈ log → begun) :
      Stage id begun completed ⟨worker, .done⟩ log due

namespace Stage

variable {id : Nat} {begun : Prop} {completed : Bool} {task : Task} {log : List WorkerEvent}
  {due : List Command} {command : Command}

theorem stops_eq_cons (h : stops completed = command :: due) :
    completed = true ∧ command = .stop ∧ due = [] := by
  cases completed with
  | false => exact absurd h (by simp [stops])
  | true =>
    obtain ⟨rfl, rfl⟩ := List.cons.inj h
    exact ⟨rfl, rfl, rfl⟩

theorem length_due_le (h : Stage id begun completed task log due) : due.length ≤ 2 := by
  have hstops : (stops completed).length ≤ 1 := by cases completed <;> decide
  cases h with
  | finished hdue => exact Nat.le_trans hdue.length_le (Nat.le_succ_of_le hstops)
  | waiting | called => simpa using hstops
  | connecting | ready | requesting | awaiting | downloading => exact Nat.le_succ_of_le hstops

/-- While a worker is busy, nothing but the order to stop can reach it. -/
theorem stop_of_busy (h : Stage id begun completed task log due)
    (hbusy : task.phase = .connection ∨ task.phase = .request ∨ task.phase = .firstByte) :
    ∀ command ∈ due, command = .stop := by
  have hstops : ∀ command ∈ stops completed, command = .stop := by cases completed <;> decide
  cases h with
  | waiting | ready | called | downloading | finished => simp [Task.ofId] at hbusy
  | connecting | requesting | awaiting => exact hstops

/-- Once the run is over, whatever a worker is doing ends by the order to stop. -/
theorem stop_mem_of_completed (h : Stage id begun true task log due) (hphase : task.phase ≠ .done) :
    .stop ∈ due := by
  cases h with
  | finished => exact absurd rfl hphase
  | waiting | called => exact List.mem_cons_of_mem _ List.mem_cons_self
  | connecting | ready | requesting | awaiting | downloading => exact List.mem_cons_self

theorem halted {worker : Worker} (h : stops completed = command :: due)
    (hbegun : ∀ ok, .firstByte id ok ∈ log → begun) :
    Stage id begun completed ⟨worker, .done⟩ log due := by
  obtain ⟨rfl, rfl, rfl⟩ := stops_eq_cons h
  exact .finished List.nil_suffix (fun h => absurd h (by simp)) hbegun

theorem obey (h : Stage id begun completed task log (command :: due)) (hphase : task.phase ≠ .done) :
    Stage id begun completed (task.obey command) log due := by
  generalize hall : command :: due = all at h
  cases h with
  | waiting =>
    obtain ⟨rfl, rfl⟩ := List.cons.inj hall
    exact .connecting rfl
  | called hid hstream hbegun =>
    obtain ⟨rfl, rfl⟩ := List.cons.inj hall
    exact .requesting hid hstream hbegun
  | finished => exact absurd rfl hphase
  | ready =>
    obtain ⟨-, rfl, -⟩ := stops_eq_cons hall.symm
    exact halted hall.symm (by simp)
  | connecting => exact halted hall.symm (by simp)
  | requesting _ _ hbegun | awaiting _ hbegun | downloading _ _ hbegun =>
    exact halted hall.symm fun _ _ => hbegun

/-- A worker that has said its last word has come to its end. -/
theorem ended {worker : Worker} (course : Course) (hcourse : course ≠ .downloads false)
    (hbegun : course.connects = true → begun) :
    Stage id begun completed ⟨worker, .done⟩ (course.stream id) (stops completed) := by
  refine .finished List.suffix_rfl (fun _ => ⟨course, hcourse, rfl⟩) fun ok hmem => hbegun ?_
  rcases course with _ | _ | (_ | _) <;> simp_all [Course.stream, Course.connects]

/-- The worker moves to another stage, and what it says continues what it has said before. -/
structure Continues (id : Nat) (begun : Prop) (completed : Bool) (log : List WorkerEvent)
    (due : List Command) (moved : Task × Option WorkerEvent) : Prop where
  stage : Stage id begun completed moved.1 (log ++ moved.2.toList) due
  event : ∀ event ∈ moved.2,
    event.worker = id ∧ log = Course.sentBefore event ∧ (event.isFirstByte → begun)

theorem continues_silently (h : Stage id begun completed task log due) :
    Continues id begun completed log due (task, none) :=
  ⟨by simpa using h, by simp⟩

theorem continues_saying {event : WorkerEvent}
    (hstage : Stage id begun completed task (log ++ [event]) due) (hworker : event.worker = id)
    (hlog : log = Course.sentBefore event) (hbegun : event.isFirstByte → begun) :
    Continues id begun completed log due (task, some event) :=
  ⟨hstage, fun _ hevent => Option.some.inj hevent ▸ ⟨hworker, hlog, hbegun⟩⟩

section Worker

variable {worker : Worker} (hid : worker.id = id)

include hid

theorem onConnected (hbegun : ¬ begun) (accepted : Bool) :
    Continues id begun completed [] (stops completed)
      ((⟨worker, .connection⟩ : Task).onConnected accepted) := by
  subst hid
  cases accepted with
  | true =>
    exact continues_saying (.ready rfl rfl hbegun) rfl rfl nofun
  | false =>
    exact continues_saying (ended .refused nofun nofun) rfl rfl nofun

theorem onWritten (hstream : worker.holdsStream = true) (hbegun : begun) (now : Nat)
    (accepted : Bool) :
    Continues id begun completed [.connected id true] (stops completed)
      ((⟨worker, .request⟩ : Task).onWritten now accepted) := by
  subst hid
  cases accepted with
  | true =>
    have hmoved : (⟨worker, .request⟩ : Task).onWritten now true =
        (⟨worker.await now, .firstByte⟩, none) := by
      simp [Task.onWritten, hstream]
    rw [hmoved]
    exact continues_silently (.awaiting rfl hbegun)
  | false =>
    have hmoved : (⟨worker, .request⟩ : Task).onWritten now false =
        (⟨worker.fail.stop, .done⟩, some (.firstByte worker.id false)) := by
      simp only [Task.onWritten, hstream]
      rfl
    rw [hmoved]
    exact continues_saying (ended .silent nofun fun _ => hbegun) rfl rfl fun _ => hbegun

theorem onFirstRead (hbegun : begun) (now : Nat) (reading : Reading) :
    Continues id begun completed [.connected id true] (stops completed)
      ((⟨worker, .firstByte⟩ : Task).onFirstRead now reading) := by
  subst hid
  have hfailed : Continues worker.id begun completed [.connected worker.id true] (stops completed)
      (⟨worker.fail.stop, .done⟩, some (.firstByte worker.id false)) := by
    exact continues_saying (ended .silent nofun fun _ => hbegun) rfl rfl fun _ => hbegun
  rcases reading with (_ | count) | _ | _
  · exact hfailed
  · exact continues_saying (.downloading rfl rfl hbegun) rfl rfl fun _ => hbegun
  · exact hfailed
  · exact hfailed

theorem onRead (hstate : worker.state = .downloading) (hbegun : begun) (now : Nat)
    (reading : Reading) :
    Continues id begun completed [.connected id true, .firstByte id true] (stops completed)
      ((⟨worker, .bytes⟩ : Task).onRead now reading) := by
  subst hid
  have hclosed : Continues worker.id begun completed
      [.connected worker.id true, .firstByte worker.id true] (stops completed)
      (⟨worker.finish.stop, .done⟩, some (.disconnected worker.id)) := by
    exact continues_saying (ended (.downloads true) nofun fun _ => hbegun) rfl rfl fun _ => hbegun
  rcases reading with (_ | count) | _ | _
  · exact hclosed
  · rw [Task.onRead_of_open hstate rfl]
    exact continues_silently (.downloading rfl hstate hbegun)
  · exact hclosed
  · rw [Task.onRead_of_open hstate rfl]
    exact continues_silently (.downloading rfl hstate hbegun)

end Worker

theorem happen (h : Stage id begun completed task log due)
    (hlog : begun → .connected id true ∈ log) (now : Nat) (happening : Happening) :
    Continues id begun completed log due (task.happen now happening) := by
  cases h with
  | waiting => exact continues_silently .waiting
  | ready hid hstream hbegun => exact continues_silently (.ready hid hstream hbegun)
  | called hid hstream hbegun => exact continues_silently (.called hid hstream hbegun)
  | finished hdue hspoken hbegun => exact continues_silently (.finished hdue hspoken hbegun)
  | connecting hid =>
    cases happening with
    | connected accepted => exact onConnected hid (fun h => absurd (hlog h) (by simp)) accepted
    | written | read => exact continues_silently (.connecting hid)
  | requesting hid hstream hbegun =>
    cases happening with
    | written accepted => exact onWritten hid hstream hbegun now accepted
    | connected | read => exact continues_silently (.requesting hid hstream hbegun)
  | awaiting hid hbegun =>
    cases happening with
    | read reading => exact onFirstRead hid hbegun now reading
    | connected | written => exact continues_silently (.awaiting hid hbegun)
  | downloading hid hstate hbegun =>
    cases happening with
    | read reading => exact onRead hid hstate hbegun now reading
    | connected | written => exact continues_silently (.downloading hid hstate hbegun)

theorem suffix_of_done (h : Stage id begun completed task log due) (hphase : task.phase = .done)
    {rest : List Command} (hrest : rest <:+ due) : Stage id begun completed task log rest := by
  cases h with
  | finished hdue hspoken hbegun => exact .finished (hrest.trans hdue) hspoken hbegun
  | _ => exact absurd hphase (by simp [Task.ofId])

/-- The transfer begins for a worker that waits for it. -/
theorem begin (h : Stage id begun false task log due) (hwaiting : ¬ begun)
    (hconnected : .connected id true ∈ log) {began : Prop} (hbegan : began) :
    Stage id began false task log (due ++ [.beginTransfer]) := by
  cases h with
  | waiting | connecting => exact absurd hconnected (by simp)
  | ready hid hstream => exact .called hid hstream hbegan
  | called _ _ hbegun | requesting _ _ hbegun | awaiting _ hbegun | downloading _ _ hbegun =>
    exact absurd hbegun hwaiting
  | finished _ hspoken hbegun =>
    obtain ⟨course, hcourse, rfl⟩ := hspoken rfl
    rcases course with _ | _ | (_ | _)
    · exact absurd hconnected (by simp [Course.stream])
    · exact absurd (hbegun false (by simp [Course.stream])) hwaiting
    · exact absurd rfl hcourse
    · exact absurd (hbegun true (by simp [Course.stream])) hwaiting

theorem congr {began : Prop} (h : Stage id begun completed task log due) (hbegun : began ↔ begun) :
    Stage id began completed task log due := by
  rwa [propext hbegun]

theorem shutdown (h : Stage id begun false task log due) :
    Stage id begun true task log (due ++ [.stop]) := by
  cases h with
  | waiting => exact .waiting
  | connecting hid => exact .connecting hid
  | ready hid hstream hbegun => exact .ready hid hstream hbegun
  | called hid hstream hbegun => exact .called hid hstream hbegun
  | requesting hid hstream hbegun => exact .requesting hid hstream hbegun
  | awaiting hid hbegun => exact .awaiting hid hbegun
  | downloading hid hstate hbegun => exact .downloading hid hstate hbegun
  | finished hdue _ hbegun =>
    obtain rfl : due = [] := List.suffix_nil.mp hdue
    exact .finished List.suffix_rfl (fun h => absurd h (by simp)) hbegun

end Stage

end Throughput
