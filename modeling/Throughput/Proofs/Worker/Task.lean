import Throughput.Worker.Task

/-!
# Steps of a worker task

What a command or a happening leaves of a task, whatever its phase. The number of the worker stays,
a task that has come to its end stays as it is, and a busy one takes any command for an order to
stop.
-/

namespace Throughput

namespace Worker

@[simp]
theorem id_finishConnect (worker : Worker) (accepted : Bool) :
    (worker.finishConnect accepted).id = worker.id := by
  cases accepted <;> rfl

@[simp]
theorem id_readFirst (worker : Worker) (now : Nat) (reading : Reading) :
    (worker.readFirst now reading).id = worker.id := by
  rcases reading with (_ | _) | _ | _ <;> rfl

@[simp]
theorem id_readNext (worker : Worker) (now : Nat) (reading : Reading) :
    (worker.readNext now reading).id = worker.id := by
  rcases reading with (_ | _) | _ | _ <;> rfl

end Worker

namespace Task

variable {task : Task}

@[simp]
theorem id_obey (task : Task) (command : Command) :
    (task.obey command).worker.id = task.worker.id := by
  unfold obey
  split <;> rfl

@[simp]
theorem id_settle (worker : Worker) : (settle worker).worker.id = worker.id := by
  unfold settle
  split <;> rfl

@[simp]
theorem id_happen (task : Task) (now : Nat) (happening : Happening) :
    (task.happen now happening).1.worker.id = task.worker.id := by
  unfold happen
  split
  · simp [onConnected]
  · rw [onWritten]
    split
    · simp
    · split <;> simp [Worker.await, Worker.fail]
  · rw [onFirstRead]
    split <;> simp
  · rw [onRead]
    split <;> simp [halt, Worker.stop]
  · rfl

theorem happen_of_done (h : task.phase = .done) (now : Nat) (happening : Happening) :
    task.happen now happening = (task, none) := by
  simp [happen, h]

theorem obey_of_done (h : task.phase = .done) (command : Command) : task.obey command = task := by
  simp [obey, h]

theorem obey_stop (h : task.phase ≠ .done) : task.obey .stop = task.halt := by
  unfold obey
  cases hphase : task.phase <;> first | rfl | exact absurd hphase h

theorem obey_of_busy (hbusy : task.phase ≠ .command) (h : task.phase ≠ .done) (command : Command) :
    task.obey command = task.halt := by
  unfold obey
  cases hphase : task.phase <;> first | rfl | exact absurd hphase hbusy | exact absurd hphase h

theorem phase_obey_stop (task : Task) : (task.obey .stop).phase = .done := by
  by_cases h : task.phase = .done
  · rwa [obey_of_done h]
  · rw [obey_stop h]
    rfl

theorem firstByte_obey_stop (task : Task) :
    (task.obey .stop).worker.firstByte = task.worker.firstByte := by
  by_cases h : task.phase = .done
  · rw [obey_of_done h]
  · rw [obey_stop h]
    rfl

end Task

end Throughput
