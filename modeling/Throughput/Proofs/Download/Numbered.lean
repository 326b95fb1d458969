import Throughput.Download.Run
import Throughput.Proofs.Worker.Task

/-!
# Numbered tasks

The tasks of a download stand in the order of their workers, whatever they obey and whatever happens
to them. So an order to one worker changes the task at its place and no other.
-/

namespace Throughput

theorem Tracker.nodup_ready (tracker : Tracker) : tracker.ready.Nodup := by
  have hsublist : tracker.ready.Sublist (tracker.connected.zipIdx.map Prod.snd) :=
    List.filter_sublist.map _
  rw [List.zipIdx_map_snd] at hsublist
  exact hsublist.nodup List.nodup_range'

theorem Coordinator.nodup_of_begin {coordinator next : Coordinator}
    {definition : DownloadDefinition} {now : Nat} {event : WorkerEvent} {ids : List Nat}
    (h : coordinator.onEvent definition now event = (next, .begin ids)) : ids.Nodup := by
  have hbegin : (coordinator.tracker.onEvent event).2 = .ok (.beginTransfer ids) := by
    rw [Coordinator.onEvent] at h
    split at h
    · cases h
    · cases h
    · next hanswer =>
      cases h
      rw [hanswer]
    · split at h <;> cases h
    · cases h
  cases event with
  | connected worker ok =>
    simp only [Tracker.onEvent, Tracker.onConnected] at hbegin
    split at hbegin
    · simp at hbegin
    · split at hbegin
      · simp at hbegin
      · obtain rfl : _ = ids := by simpa using hbegin
        exact Tracker.nodup_ready _
  | firstByte worker ok =>
    simp only [Tracker.onEvent, Tracker.onFirstByte] at hbegin
    split at hbegin
    · simp at hbegin
    · split at hbegin <;> simp at hbegin
  | disconnected worker =>
    simp only [Tracker.onEvent, Tracker.onDisconnected] at hbegin
    split at hbegin <;> simp at hbegin

namespace Download

variable {download : Download} {command : Command} {id : Nat}

theorem command_nil (download : Download) (command : Command) :
    download.command command [] = download := by
  simp [Download.command]

theorem command_cons {ids : List Nat} (hid : id ∉ ids) :
    (download.command command [id]).command command ids = download.command command (id :: ids) := by
  simp only [Download.command, List.map_map]
  congr 1
  refine List.map_congr_left fun task _ => ?_
  by_cases hsame : task.worker.id = id
  · simp [hsame, hid]
  · simp [hsame]

/-- A download whose tasks stand in the order of their workers. -/
def Numbered (download : Download) : Prop :=
  ∀ (id : Nat) (task : Task), download.tasks[id]? = some task → task.worker.id = id

theorem Numbered.command_some (h : download.Numbered) {task : Task}
    (htask : download.tasks[id]? = some task) :
    download.command command [id] =
      { download with tasks := download.tasks.set id (task.obey command) } := by
  simp only [Download.command]
  congr 1
  refine List.ext_getElem? fun other => ?_
  rw [List.getElem?_map, List.getElem?_set]
  by_cases hsame : id = other
  · subst hsame
    have hbound : id < download.tasks.length := (List.getElem?_eq_some_iff.mp htask).1
    rw [htask, if_pos rfl, if_pos hbound]
    simp [h id task htask]
  · rw [if_neg hsame]
    cases hother : download.tasks[other]? with
    | none => rfl
    | some found => simp [h other found hother, Ne.symm hsame]

theorem Numbered.command_none (h : download.Numbered) (htask : download.tasks[id]? = none) :
    download.command command [id] = download := by
  simp only [Download.command]
  congr 1
  refine (List.map_congr_left fun task hmem => ?_).trans download.tasks.map_id
  obtain ⟨other, hother⟩ := List.mem_iff_getElem?.mp hmem
  have hne : task.worker.id ≠ id := by
    rintro rfl
    rw [h other task hother] at htask
    simp [htask] at hother
  simp [hne]

theorem Numbered.set (h : download.Numbered) {task : Task} (hid : task.worker.id = id) :
    Numbered { download with tasks := download.tasks.set id task } := by
  intro other found hfound
  by_cases hsame : id = other
  · subst hsame
    change (download.tasks.set id task)[id]? = _ at hfound
    rw [List.getElem?_set_self'] at hfound
    obtain ⟨-, -, rfl⟩ := Option.map_eq_some_iff.mp hfound
    exact hid
  · exact h other found ((List.getElem?_set_ne hsame).symm.trans hfound)

theorem Numbered.command_all (h : download.Numbered) (command : Command) :
    (download.command command (List.range download.tasks.length)).tasks =
      download.tasks.map fun task => task.obey command := by
  refine List.map_congr_left fun task hmem => ?_
  obtain ⟨id, hid⟩ := List.mem_iff_getElem?.mp hmem
  have hbound : id < download.tasks.length := (List.getElem?_eq_some_iff.mp hid).1
  simp [h id task hid, hbound]

end Download

end Throughput
