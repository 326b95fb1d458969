import Mathlib.Algebra.Order.BigOperators.Group.List
import Mathlib.Algebra.Order.Group.Nat
import Throughput.Proofs.Tracker.Interleaving
import Throughput.Proofs.Worker.Readings
import Throughput.Proofs.Worker.Report
import Throughput.Proofs.Worker.Task

/-!
# The life of a worker

A worker task under a coordinator, from its first command to its report. The coordinator may let go
of it at any moment, and its connection may do what it likes. Where the task stands is told by what
it has said, and so is what it will report if it has to end there.
-/

namespace Throughput

/-- What a task meets with: a command, at the moment at which the task takes it, the end of its
channel, or what becomes of its connection. -/
inductive Occasion where
  | order (command : Command)
  | hangUp
  | happening (now : Nat) (happening : Happening)
  deriving DecidableEq, Repr

def Occasion.time? : Occasion → Option Nat
  | .happening now _ => some now
  | .order _ | .hangUp => none

/-- The server has ended the stream, or the connection is broken. -/
def Occasion.closes : Occasion → Bool
  | .happening now (.read reading) => (TimedReading.mk now reading).ends
  | _ => false

/-- A task is let go of when it is told to stop or finds its channel closed. -/
def Occasion.letsGo : Occasion → Bool
  | .order .stop | .hangUp => true
  | _ => false

/-- A task and all that it has said. -/
structure Life where
  task : Task
  log : List WorkerEvent
  deriving DecidableEq, Repr

namespace Life

def ofId (id : Nat) : Life :=
  ⟨.ofId id, []⟩

/-- A task that finds its channel closed stops as if it were told to. -/
def meet (life : Life) : Occasion → Life
  | .order command => { life with task := life.task.obey command }
  | .hangUp => { life with task := life.task.obey .stop }
  | .happening now happening =>
    let (task, event) := life.task.happen now happening
    ⟨task, life.log ++ event.toList⟩

def after (id : Nat) (history : List Occasion) : Life :=
  history.foldl meet (ofId id)

theorem after_concat (id : Nat) (history : List Occasion) (occasion : Occasion) :
    after id (history ++ [occasion]) = (after id history).meet occasion := by
  rw [after, List.foldl_append]
  rfl

/-- What a coordinator and a connection may do next. There is at most one order to connect, and an
order to transfer only after the worker has said that it is connected. Stops and the end of the
channel may come at any moment, and so may anything that happens to the connection, in order of
time. -/
inductive Allowed (id : Nat) (history : List Occasion) : Occasion → Prop
  | connect (hfirst : .order .connect ∉ history) : Allowed id history (.order .connect)
  | beginTransfer (hconnected : .connected id true ∈ (after id history).log) :
      Allowed id history (.order .beginTransfer)
  | stop : Allowed id history (.order .stop)
  | hangUp : Allowed id history .hangUp
  | happening {now : Nat} (happening : Happening)
      (htime : ∀ earlier ∈ history.filterMap Occasion.time?, earlier ≤ now) :
      Allowed id history (.happening now happening)

/-- A history in which everything is allowed in its turn. -/
inductive Regular (id : Nat) : List Occasion → Prop
  | nil : Regular id []
  | concat {history : List Occasion} {occasion : Occasion} (h : Regular id history)
      (hallowed : Allowed id history occasion) : Regular id (history ++ [occasion])

end Life

/-! ### Stages -/

/-- The worker whose connection was accepted. -/
def Worker.online (id : Nat) : Worker :=
  ((ofId id).beginConnect).finishConnect true

/-- Where a task stands, by what it has said. -/
inductive LifeStage (id now : Nat) (called : Prop) : Task → List WorkerEvent → Prop
  | fresh : LifeStage id now called (.ofId id) []
  | connecting (hcalled : called) :
      LifeStage id now called ⟨(Worker.ofId id).beginConnect, .connection⟩ []
  | connected (hcalled : called) :
      LifeStage id now called ⟨.online id, .command⟩ [.connected id true]
  | requesting : LifeStage id now called ⟨.online id, .request⟩ [.connected id true]
  | awaiting (started : Nat) :
      LifeStage id now called ⟨(Worker.online id).await started, .firstByte⟩ [.connected id true]
  | downloading {worker : Worker} (hid : worker.id = id) (hstate : worker.state = .downloading)
      (hsampled : worker.Sampled now) :
      LifeStage id now called ⟨worker, .bytes⟩ [.connected id true, .firstByte id true]
  | ended {worker : Worker} {log : List WorkerEvent} (hreports : worker.Reports)
      (hsaid : ∃ course : Course, log <+: course.stream id)
      (hheard : .firstByte id true ∈ log ↔ worker.firstByte.isSome = true) :
      LifeStage id now called ⟨worker, .done⟩ log

namespace LifeStage

variable {id now : Nat} {called : Prop} {task : Task} {log : List WorkerEvent}

theorem mono {time : Nat} {due : Prop} (h : LifeStage id now called task log) (hlater : now ≤ time)
    (hdue : called → due) : LifeStage id time due task log := by
  cases h with
  | fresh => exact .fresh
  | connecting hcalled => exact .connecting (hdue hcalled)
  | connected hcalled => exact .connected (hdue hcalled)
  | requesting => exact .requesting
  | awaiting started => exact .awaiting started
  | downloading hid hstate hsampled => exact .downloading hid hstate (hsampled.later hlater)
  | ended hreports hsaid hheard => exact .ended hreports hsaid hheard

/-- What a task has said is the beginning of what a worker may say. -/
theorem exists_course (h : LifeStage id now called task log) :
    ∃ course : Course, log <+: course.stream id := by
  cases h with
  | fresh | connecting => exact ⟨.refused, List.nil_prefix⟩
  | connected | requesting | awaiting => exact ⟨.silent, [.firstByte id false], rfl⟩
  | downloading => exact ⟨.downloads false, List.prefix_rfl⟩
  | ended _ hsaid => exact hsaid

theorem firstByte_mem_iff (h : LifeStage id now called task log) :
    .firstByte id true ∈ log ↔ task.worker.firstByte.isSome = true := by
  cases h with
  | fresh | connecting | connected | requesting | awaiting =>
    exact iff_of_false (by simp) Bool.noConfusion
  | downloading _ _ hsampled =>
    obtain ⟨elapsed, hfirst, -⟩ := hsampled.first
    exact iff_of_true (by simp) (by rw [hfirst]; rfl)
  | ended _ _ hheard => exact hheard

theorem reports (h : LifeStage id now called task log) (hphase : task.phase = .done) :
    task.worker.Reports := by
  cases h with
  | ended hreports => exact hreports
  | _ => cases hphase

/-- A task that ends before it has heard the first byte. -/
theorem ended_unread {worker : Worker} (course : Course) (hlog : log <+: course.stream id)
    (hunheard : .firstByte id true ∉ log) (hsamples : worker.samples = [])
    (hfirst : worker.firstByte = none) (hstream : worker.holdsStream = false)
    (hstate : worker.state ≠ .succeeded ∧ worker.state ≠ .downloading) :
    LifeStage id now called ⟨worker, .done⟩ log :=
  .ended (Worker.reports_of_unread hsamples hfirst hstream hstate) ⟨course, hlog⟩
    (iff_of_false hunheard (by simp [hfirst]))

theorem ended_read {worker : Worker} (closed : Bool) (hsampled : worker.Sampled now)
    (hstate : worker.state = .succeeded) (hstream : worker.holdsStream = false) :
    LifeStage id now called ⟨worker, .done⟩ ((Course.downloads closed).stream id) := by
  obtain ⟨elapsed, hfirst, -⟩ := hsampled.first
  refine .ended (hsampled.reports hstate hstream) ⟨_, List.prefix_rfl⟩ (iff_of_true ?_ ?_)
  · cases closed <;> simp [Course.stream]
  · rw [hfirst]
    rfl

/-- A task may be told to stop wherever it stands. -/
theorem halt (h : LifeStage id now called task log) (hphase : task.phase ≠ .done) :
    LifeStage id now called task.halt log := by
  have hunread (worker : Worker) (phase : TaskPhase)
      (hlog : .firstByte id true ∉ log) (hsamples : worker.samples = [])
      (hfirst : worker.firstByte = none) (hstate : worker.state ≠ .downloading)
      (hunfinished : worker.state ≠ .succeeded) :
      LifeStage id now called (Task.halt ⟨worker, phase⟩) log := by
    obtain ⟨course, hcourse⟩ := h.exists_course
    refine ended_unread course hcourse hlog hsamples hfirst rfl ?_
    rw [Worker.stop, if_neg hstate]
    exact ⟨hunfinished, hstate⟩
  cases h with
  | fresh | connecting | connected | requesting | awaiting =>
    exact hunread _ _ (by simp) rfl rfl WorkerState.noConfusion WorkerState.noConfusion
  | downloading hid hstate hsampled =>
    exact ended_read false hsampled.stop (if_pos hstate) rfl
  | ended => exact absurd rfl hphase

/-- A busy task takes any order for a stop. -/
theorem obey_of_busy (h : LifeStage id now called task log) (hbusy : task.phase ≠ .command)
    (command : Command) : LifeStage id now called (task.obey command) log := by
  by_cases hdone : task.phase = .done
  · rwa [Task.obey_of_done hdone]
  · rw [Task.obey_of_busy hbusy hdone]
    exact h.halt hdone

theorem stop (h : LifeStage id now called task log) :
    LifeStage id now called (task.obey .stop) log := by
  by_cases hdone : task.phase = .done
  · rwa [Task.obey_of_done hdone]
  · rw [Task.obey_stop hdone]
    exact h.halt hdone

theorem connect (h : LifeStage id now called task log) (hfirst : ¬ called) :
    LifeStage id now True (task.obey .connect) log := by
  by_cases hphase : task.phase = .command
  · cases h with
    | fresh => exact .connecting trivial
    | connected hcalled => exact absurd hcalled hfirst
    | _ => cases hphase
  · exact (h.mono (Nat.le_refl now) fun _ => trivial).obey_of_busy hphase .connect

theorem beginTransfer (h : LifeStage id now called task log)
    (hconnected : .connected id true ∈ log) :
    LifeStage id now called (task.obey .beginTransfer) log := by
  by_cases hphase : task.phase = .command
  · cases h with
    | fresh => exact absurd hconnected List.not_mem_nil
    | connected => exact .requesting
    | _ => cases hphase
  · exact h.obey_of_busy hphase .beginTransfer

/-- A task that something has happened to, and what it has said by then. -/
def Moves (id now : Nat) (called : Prop) (log : List WorkerEvent)
    (moved : Task × Option WorkerEvent) : Prop :=
  LifeStage id now called moved.1 (log ++ moved.2.toList)

theorem onConnected (hcalled : called) (accepted : Bool) :
    Moves id now called []
      ((⟨(Worker.ofId id).beginConnect, .connection⟩ : Task).onConnected accepted) := by
  cases accepted with
  | true => exact .connected hcalled
  | false =>
    change LifeStage id now called ⟨(Worker.ofId id).beginConnect.fail.stop, .done⟩
      [.connected id false]
    exact ended_unread .refused List.prefix_rfl (by simp) rfl rfl rfl
      ⟨WorkerState.noConfusion, WorkerState.noConfusion⟩

theorem onWritten (accepted : Bool) :
    Moves id now called [.connected id true]
      ((⟨Worker.online id, .request⟩ : Task).onWritten now accepted) := by
  cases accepted with
  | true => exact .awaiting now
  | false =>
    change LifeStage id now called ⟨(Worker.online id).fail.stop, .done⟩
      [.connected id true, .firstByte id false]
    exact ended_unread .silent List.prefix_rfl (by simp) rfl rfl rfl
      ⟨WorkerState.noConfusion, WorkerState.noConfusion⟩

theorem onFirstRead (started : Nat) (reading : Reading) :
    Moves id now called [.connected id true]
      ((⟨(Worker.online id).await started, .firstByte⟩ : Task).onFirstRead now reading) := by
  have hfailed : LifeStage id now called ⟨((Worker.online id).await started).fail.stop, .done⟩
      [.connected id true, .firstByte id false] :=
    ended_unread .silent List.prefix_rfl (by simp) rfl rfl rfl
      ⟨WorkerState.noConfusion, WorkerState.noConfusion⟩
  rcases reading with (_ | count) | _ | _
  · exact hfailed
  · exact .downloading rfl rfl (Worker.sampled_readFirst rfl rfl count)
  · exact hfailed
  · exact hfailed

theorem onRead {worker : Worker} (hid : worker.id = id) (hstate : worker.state = .downloading)
    (hsampled : worker.Sampled now) (reading : Reading) :
    Moves id now called [.connected id true, .firstByte id true]
      ((⟨worker, .bytes⟩ : Task).onRead now reading) := by
  subst hid
  have hclosed : LifeStage worker.id now called ⟨worker.finish.stop, .done⟩
      ((Course.downloads true).stream worker.id) :=
    ended_read true hsampled.finish.stop rfl rfl
  rcases reading with (_ | count) | _ | _
  · exact hclosed
  · rw [Task.onRead_of_open hstate rfl]
    exact .downloading rfl hstate (hsampled.record count)
  · exact hclosed
  · rw [Task.onRead_of_open hstate rfl]
    exact .downloading rfl hstate hsampled

theorem happen (h : LifeStage id now called task log) (happening : Happening) :
    Moves id now called log (task.happen now happening) := by
  have hsilent : Moves id now called log (task, none) := by
    rwa [Moves, Option.toList_none, List.append_nil]
  cases h with
  | fresh | connected | ended => exact hsilent
  | connecting hcalled =>
    cases happening with
    | connected accepted => exact onConnected hcalled accepted
    | written | read => exact hsilent
  | requesting =>
    cases happening with
    | written accepted => exact onWritten accepted
    | connected | read => exact hsilent
  | awaiting started =>
    cases happening with
    | read reading => exact onFirstRead started reading
    | connected | written => exact hsilent
  | downloading hid hstate hsampled =>
    cases happening with
    | read reading => exact onRead hid hstate hsampled reading
    | connected | written => exact hsilent

/-- Only a task that has heard the first byte takes note of the end of the stream. -/
theorem happen_disconnected (h : LifeStage id now called task log) {happening : Happening}
    {worker : Nat} (hevent : (task.happen now happening).2 = some (.disconnected worker)) :
    (Occasion.happening now happening).closes = true ∧
      log = [.connected id true, .firstByte id true] := by
  cases h with
  | fresh | connected | ended => cases hevent
  | connecting =>
    cases happening with
    | connected | written | read => cases hevent
  | requesting =>
    cases happening with
    | written accepted => cases accepted <;> cases hevent
    | connected | read => cases hevent
  | awaiting =>
    cases happening with
    | read reading => rcases reading with (_ | count) | _ | _ <;> cases hevent
    | connected | written => cases hevent
  | downloading hid hstate =>
    cases happening with
    | connected | written => cases hevent
    | read reading =>
      cases hends : (TimedReading.mk now reading).ends with
      | true => exact ⟨hends, rfl⟩
      | false =>
        change (Task.onRead _ now reading).2 = _ at hevent
        rw [Task.onRead_of_open hstate hends] at hevent
        cases hevent

end LifeStage

/-! ### Whole lives -/

namespace Life

namespace Regular

variable {id : Nat} {history : List Occasion}

theorem stage (h : Regular id history) {now : Nat}
    (htime : ∀ earlier ∈ history.filterMap Occasion.time?, earlier ≤ now) :
    LifeStage id now (.order .connect ∈ history) (after id history).task
      (after id history).log := by
  induction h generalizing now with
  | nil => exact .fresh
  | @concat history occasion h hallowed ih =>
    obtain ⟨hpast, hlast⟩ := List.forall_mem_append.mp (List.filterMap_append ▸ htime)
    have hcalled : .order .connect ∈ history → .order .connect ∈ history ++ [occasion] :=
      List.mem_append_left _
    rw [after_concat]
    cases hallowed with
    | connect hfirst => exact ((ih hpast).connect hfirst).mono (Nat.le_refl now) (by simp)
    | beginTransfer hconnected =>
      exact ((ih hpast).beginTransfer hconnected).mono (Nat.le_refl now) hcalled
    | stop | hangUp => exact (ih hpast).stop.mono (Nat.le_refl now) hcalled
    | happening happening hearlier =>
      -- The stage before it is taken at its own time, which may be earlier.
      exact ((ih hearlier).happen happening).mono (hlast _ (by simp [Occasion.time?])) hcalled

/-- A worker says that it is disconnected when the server ends a stream that has begun. -/
theorem disconnected (h : Regular id history)
    (hmem : .disconnected id ∈ (after id history).log) :
    ∃ before closing later, history = before ++ closing :: later ∧
      Occasion.closes closing = true ∧
      (after id before).log = [.connected id true, .firstByte id true] := by
  induction h with
  | nil => exact absurd hmem List.not_mem_nil
  | @concat history occasion h hallowed ih =>
    by_cases hbefore : .disconnected id ∈ (after id history).log
    · obtain ⟨before, closing, later, rfl, hcloses, hlog⟩ := ih hbefore
      exact ⟨before, closing, later ++ [occasion], by simp, hcloses, hlog⟩
    · rw [after_concat] at hmem
      cases hallowed with
      | connect | beginTransfer | stop | hangUp => exact absurd hmem hbefore
      | @happening now happening hearlier =>
        have hevent := Option.mem_toList.mp ((List.mem_append.mp hmem).resolve_left hbefore)
        obtain ⟨hcloses, hlog⟩ := (h.stage hearlier).happen_disconnected hevent
        exact ⟨history, _, [], rfl, hcloses, hlog⟩

end Regular

/-- What holds at every moment of a life: of what has been said, of the report once there is one,
and of the report that would be made if the task were let go of now. -/
structure Lawful (id : Nat) (history : List Occasion) : Prop where
  said : ∃ course : Course, (after id history).log <+: course.stream id
  heard : .firstByte id true ∈ (after id history).log ↔
    (after id history).task.worker.firstByte.isSome = true
  closed : .disconnected id ∈ (after id history).log →
    ∃ before closing later, history = before ++ closing :: later ∧
      Occasion.closes closing = true ∧
      (after id before).log = [.connected id true, .firstByte id true]
  reports : (after id history).task.phase = .done → (after id history).task.worker.Reports
  released : ∀ occasion, Occasion.letsGo occasion = true →
    ((after id history).meet occasion).task.phase = .done ∧
      ((after id history).meet occasion).task.worker.Reports
  unheard : ∀ occasion, Occasion.letsGo occasion = true →
    (after id history).task.worker.firstByte = none →
      ((after id history).meet occasion).task.worker.state ≠ .succeeded

theorem meet_of_letsGo {occasion : Occasion} (h : occasion.letsGo = true) (life : Life) :
    life.meet occasion = ⟨life.task.obey .stop, life.log⟩ := by
  rcases occasion with (_ | _ | _) | _ | _ <;> first | rfl | cases h

/-- Whatever the coordinator and the connection do, a worker says its events in their order and
reports what it has said. -/
theorem lawful {id : Nat} {history : List Occasion} (h : Regular id history) :
    Lawful id history := by
  have hstage := h.stage fun _ => List.le_sum_of_mem
  have hreleased : ((after id history).task.obey .stop).worker.Reports :=
    hstage.stop.reports (Task.phase_obey_stop _)
  refine ⟨hstage.exists_course, hstage.firstByte_mem_iff, h.disconnected, hstage.reports, ?_, ?_⟩
  · intro occasion hoccasion
    rw [meet_of_letsGo hoccasion]
    exact ⟨Task.phase_obey_stop _, hreleased⟩
  · intro occasion hoccasion hunheard hsucceeded
    rw [meet_of_letsGo hoccasion] at hsucceeded
    have hheard := hreleased.firstByte_iff.mpr (hreleased.succeeded_iff.mp hsucceeded)
    rw [Task.firstByte_obey_stop, hunheard] at hheard
    cases hheard

/-- A worker that is told to stop while it downloads. -/
theorem lawful_stopped :
    let history : List Occasion :=
      [.order .connect, .happening 5 (.connected true), .order .beginTransfer,
        .happening 6 (.written true), .happening 9 (.read (.bytes 3)),
        .happening 12 (.read (.bytes 4)), .order .stop]
    Regular 2 history ∧ Lawful 2 history := by
  intro history
  have hregular : Regular 2 history := by
    change Regular 2 ([] ++ [.order .connect] ++ [.happening 5 (.connected true)] ++
      [.order .beginTransfer] ++ [.happening 6 (.written true)] ++
      [.happening 9 (.read (.bytes 3))] ++ [.happening 12 (.read (.bytes 4))] ++ [.order .stop])
    refine .concat (.concat (.concat (.concat (.concat (.concat (.concat .nil ?_) ?_) ?_) ?_) ?_)
      ?_) .stop
    · exact .connect (by decide)
    · exact .happening _ (by decide)
    · exact .beginTransfer (by decide)
    all_goals exact .happening _ (by decide)
  exact ⟨hregular, lawful hregular⟩

end Life

end Throughput
