import Throughput.Tracker
import Throughput.Worker.Basic

/-!
# Worker tasks

A worker under the command of a coordinator. It obeys one command at a time, reports each outcome,
and takes any command that comes while it is busy as an order to stop.
-/

namespace Throughput

inductive Command where
  | connect
  | beginTransfer
  | stop
  deriving DecidableEq, Repr

inductive Happening where
  | connected (accepted : Bool)
  | written (accepted : Bool)
  | read (reading : Reading)
  deriving DecidableEq, Repr

inductive TaskPhase where
  | command
  | connection
  | request
  | firstByte
  | bytes
  | done
  deriving DecidableEq, Repr

structure Task where
  worker : Worker
  phase : TaskPhase
  deriving DecidableEq, Repr

namespace Task

def ofId (id : Nat) : Task :=
  ⟨.ofId id, .command⟩

def halt (task : Task) : Task :=
  ⟨task.worker.stop, .done⟩

def obey (task : Task) (command : Command) : Task :=
  match task.phase, command with
  | .command, .connect => ⟨task.worker.beginConnect, .connection⟩
  | .command, .beginTransfer => { task with phase := .request }
  | .done, _ => task
  | _, _ => task.halt

/-- The next command is awaited, unless the worker has come to its end. -/
def settle (worker : Worker) : Task :=
  if worker.state.isFinished then (⟨worker, .command⟩ : Task).halt else ⟨worker, .command⟩

def onConnected (task : Task) (accepted : Bool) : Task × Option WorkerEvent :=
  let worker := task.worker.finishConnect accepted
  (settle worker, some (.connected worker.id accepted))

/-- A worker without a stream cannot write its request, and stays as it is. -/
def onWritten (task : Task) (now : Nat) (accepted : Bool) : Task × Option WorkerEvent :=
  let failure : WorkerEvent := .firstByte task.worker.id false
  if !task.worker.holdsStream then
    (settle task.worker, some failure)
  else if accepted then
    (⟨task.worker.await now, .firstByte⟩, none)
  else
    (settle task.worker.fail, some failure)

def onFirstRead (task : Task) (now : Nat) (reading : Reading) : Task × Option WorkerEvent :=
  let worker := task.worker.readFirst now reading
  if worker.state = .downloading then
    (⟨worker, .bytes⟩, some (.firstByte worker.id true))
  else
    (settle worker, some (.firstByte worker.id false))

def onRead (task : Task) (now : Nat) (reading : Reading) : Task × Option WorkerEvent :=
  let worker := task.worker.readNext now reading
  if worker.state.isFinished then
    ((⟨worker, .bytes⟩ : Task).halt, some (.disconnected worker.id))
  else
    (⟨worker, .bytes⟩, none)

/-- What does not fit the phase is not for this task any more. -/
def happen (task : Task) (now : Nat) (happening : Happening) : Task × Option WorkerEvent :=
  match task.phase, happening with
  | .connection, .connected accepted => task.onConnected accepted
  | .request, .written accepted => task.onWritten now accepted
  | .firstByte, .read reading => task.onFirstRead now reading
  | .bytes, .read reading => task.onRead now reading
  | _, _ => (task, none)

end Task

end Throughput
