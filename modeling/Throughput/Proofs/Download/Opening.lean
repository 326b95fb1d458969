import Throughput.Proofs.Download.Carried
import Throughput.Proofs.Download.Passage
import Throughput.Proofs.StableSort

/-!
# Opening a download

First each worker learns in its time whether it is connected. The last one begins the transfer, and
all that are connected send their requests. If nobody is, the last one ends the run.
-/

namespace Throughput

/-- The task of a worker that has learnt whether it is connected. -/
def Task.greeted (id : Nat) (accepted : Bool) : Task :=
  (((Task.ofId id).obey .connect).happen 0 (.connected accepted)).1

/-- The task of a connected worker that was told to send its request. -/
def Task.requesting (id : Nat) : Task :=
  ⟨(Task.greeted id true).worker, .request⟩

/-- The task of a connected worker that has sent its request. -/
def Task.awaiting (id now : Nat) : Task :=
  ⟨(Task.greeted id true).worker.await now, .firstByte⟩

/-- The task of a worker that has learnt what is in the log, if that is about it. -/
def Task.afterLog (log : List WorkerEvent) (id : Nat) : Task :=
  if .connected id true ∈ log then .greeted id true
  else if .connected id false ∈ log then .greeted id false
  else (Task.ofId id).obey .connect

/-- A worker and the end of its attempt. -/
abbrev Appointment.answers (entry : Handshake × Nat) : Appointment :=
  ⟨entry.1.time, .worker entry.2 (.connected entry.1.accepted)⟩

abbrev WorkerEvent.answer (entry : Handshake × Nat) : WorkerEvent :=
  .connected entry.2 entry.1.accepted

namespace Handshake

/-- Handshakes with the numbers of their workers, in the order in which they end. -/
def ordered (handshakes : List Handshake) : List (Handshake × Nat) :=
  sortBy (fun entry => entry.1.time) handshakes.zipIdx

def answers (handshakes : List Handshake) : List WorkerEvent :=
  (ordered handshakes).map .answer

variable {handshakes : List Handshake}

theorem le_latest {handshake : Handshake} (hmem : handshake ∈ handshakes) :
    handshake.time ≤ latest handshakes := by
  induction handshakes with
  | nil => cases hmem
  | cons first rest ih =>
    rcases List.mem_cons.mp hmem with rfl | hrest
    · exact Nat.le_max_left _ _
    · exact Nat.le_trans (ih hrest) (Nat.le_max_right _ _)

theorem latest_le {time : Nat} (hle : ∀ handshake ∈ handshakes, handshake.time ≤ time) :
    latest handshakes ≤ time := by
  induction handshakes with
  | nil => exact Nat.zero_le _
  | cons first rest ih =>
    obtain ⟨hfirst, hrest⟩ := List.forall_mem_cons.mp hle
    exact Nat.max_le.mpr ⟨hfirst, ih hrest⟩

theorem mem_connected {id : Nat} : id ∈ connected handshakes ↔ connects handshakes id = true := by
  rw [connected, List.mem_filter, List.mem_range, and_iff_right_iff_imp]
  intro hconnects
  by_contra hid
  rw [connects, List.getElem?_eq_none (Nat.le_of_not_lt hid)] at hconnects
  cases hconnects

theorem connects_eq_true {id : Nat} :
    connects handshakes id = true ↔ handshakes[id]?.map accepted = some true := by
  rw [connects]
  cases handshakes[id]? <;> simp

theorem mem_ordered {entry : Handshake × Nat} :
    entry ∈ ordered handshakes ↔ handshakes[entry.2]? = some entry.1 := by
  rw [ordered, List.mem_mergeSort, List.mem_zipIdx_iff_getElem?]

theorem connected_mem_answers {id : Nat} {ok : Bool} :
    .connected id ok ∈ answers handshakes ↔ handshakes[id]?.map accepted = some ok := by
  simp only [answers, List.mem_map, mem_ordered, Prod.exists, WorkerEvent.connected.injEq,
    Option.map_eq_some_iff]
  constructor
  · rintro ⟨handshake, other, hget, rfl, rfl⟩
    exact ⟨handshake, hget, rfl⟩
  · rintro ⟨handshake, hget, rfl⟩
    exact ⟨handshake, id, hget, rfl, rfl⟩

/-- Every worker answers once. -/
theorem ordered_perm (handshakes : List Handshake) :
    ((ordered handshakes).map Prod.snd).Perm (List.range handshakes.length) := by
  have hsorted := (List.mergeSort_perm handshakes.zipIdx fun left right =>
    decide (left.1.time ≤ right.1.time)).map Prod.snd
  rwa [List.zipIdx_map_snd, ← List.range_eq_range'] at hsorted

theorem handshaken_answers {workers : Nat} (hlength : handshakes.length = workers) :
    Handshaken workers (answers handshakes) := by
  intro id hid
  simp only [connected_mem_answers, List.getElem?_eq_getElem (hlength ▸ hid), Option.map_some]
  cases handshakes[id].accepted <;> simp

theorem connectedOf_answers {workers : Nat} (hlength : handshakes.length = workers) :
    connectedOf workers (answers handshakes) = connected handshakes := by
  subst hlength
  refine List.filter_congr fun id _ => ?_
  rw [Bool.eq_iff_iff, decide_eq_true_iff, connected_mem_answers, connects_eq_true]

end Handshake

open Handshake

namespace Agenda

/-- All workers learn whether they are connected, and those that are send their requests. -/
def overture (handshakes : List Handshake) : Agenda :=
  (ordered handshakes).map .answers ++
    forAll (connected handshakes) (latest handshakes) (.written true)

end Agenda

attribute [ext] Download

namespace Download

/-- A download without a window whose coordinator has been told what is in the log. -/
def staged (definition : DownloadDefinition) (log : List WorkerEvent) (tasks : Nat → Task) :
    Download where
  definition
  coordinator := ⟨.ofLog definition.threads.toNat log, none⟩
  tasks := (List.range definition.threads.toNat).map tasks

/-- The workers in the log know whether they are connected. -/
def greeted (definition : DownloadDefinition) (log : List WorkerEvent) : Download :=
  staged definition log (Task.afterLog log)

/-- All workers know whether they are connected, and those that are shall send their requests. -/
def requested (definition : DownloadDefinition) (handshakes : List Handshake) : Download :=
  staged definition (answers handshakes) fun id =>
    if connects handshakes id then .requesting id else .greeted id false

/-- The requests are out. -/
def awaiting (definition : DownloadDefinition) (handshakes : List Handshake) : Download :=
  staged definition (answers handshakes) fun id =>
    if connects handshakes id then .awaiting id (latest handshakes) else .greeted id false

section Staged

variable {definition : DownloadDefinition} {log : List WorkerEvent} {tasks : Nat → Task} {id : Nat}

theorem getElem?_staged (hid : id < definition.threads.toNat) :
    (staged definition log tasks).tasks[id]? = some (tasks id) := by
  simp [staged, hid]

theorem set_staged (task : Task) :
    (staged definition log tasks).tasks.set id task =
      (staged definition log (Function.update tasks id task)).tasks := by
  apply List.ext_getElem
  · simp [staged]
  · intro index hleft hright
    simp only [staged, List.getElem_set, List.getElem_map, List.getElem_range]
    by_cases hindex : id = index
    · subst hindex
      simp
    · rw [if_neg hindex, Function.update_of_ne (Ne.symm hindex)]

theorem staged_congr {others : Nat → Task}
    (h : ∀ id < definition.threads.toNat, tasks id = others id) :
    staged definition log tasks = staged definition log others :=
  Download.ext rfl rfl (List.map_congr_left fun id hmem => h id (List.mem_range.mp hmem))

end Staged

section Greeted

variable {definition : DownloadDefinition} {log : List WorkerEvent} {id : Nat} {ok : Bool}

theorem afterLog_fresh (hfresh : ∀ ok, .connected id ok ∉ log) :
    Task.afterLog log id = (Task.ofId id).obey .connect := by
  rw [Task.afterLog, if_neg (hfresh true), if_neg (hfresh false)]

theorem update_afterLog (hfresh : ∀ ok, .connected id ok ∉ log) :
    Function.update (Task.afterLog log) id (.greeted id ok) =
      Task.afterLog (log ++ [.connected id ok]) := by
  funext other
  by_cases hother : other = id
  · subst hother
    cases ok <;> simp [Task.afterLog, hfresh]
  · simp [Task.afterLog, hother]

variable (hlog : Consistent definition.threads.toNat log)
  (hadmits : Admits definition.threads.toNat log (.connected id ok))
include hadmits

theorem eventOf_greeted (now : Nat) :
    (greeted definition log).eventOf now id (.connected ok) = some (.connected id ok) := by
  rw [eventOf, greeted, getElem?_staged hadmits.1, afterLog_fresh hadmits.2]
  cases ok <;> rfl

include hlog

/-- What is made of the answer of one worker. -/
theorem happen_greeted (now : Nat) :
    (greeted definition log).happen now id (.connected ok) =
      if Handshaken definition.threads.toNat (log ++ [.connected id ok]) then
        if connectedOf definition.threads.toNat (log ++ [.connected id ok]) = [] then
          (greeted definition (log ++ [.connected id ok]), some (.error .connection))
        else
          ((greeted definition (log ++ [.connected id ok])).command .beginTransfer
            (connectedOf definition.threads.toNat (log ++ [.connected id ok])), none)
      else (greeted definition (log ++ [.connected id ok]), none) := by
  have hworkers : 0 < definition.threads.toNat := Nat.lt_of_le_of_lt (Nat.zero_le id) hadmits.1
  have hgreeting : ((Task.ofId id).obey .connect).happen now (.connected ok) =
      (Task.greeted id ok, some (.connected id ok)) := by
    cases ok <;> rfl
  have htracker : (Tracker.ofLog definition.threads.toNat log).onEvent (.connected id ok) =
      (.ofLog definition.threads.toNat (log ++ [.connected id ok]),
        Tracker.answer definition.threads.toNat (log ++ [.connected id ok])
          (.connected id ok)) :=
    Tracker.onEvent_ofLog hlog hadmits hworkers
  have htasks := @set_staged definition log (Task.afterLog log) id (.greeted id ok)
  rw [update_afterLog hadmits.2] at htasks
  rw [happen, greeted, getElem?_staged hadmits.1, afterLog_fresh hadmits.2]
  simp only [hgreeting, htasks]
  simp only [report, staged, Coordinator.onEvent, htracker, Tracker.answer]
  by_cases hhand : Handshaken definition.threads.toNat (log ++ [.connected id ok])
  · by_cases hnone : connectedOf definition.threads.toNat (log ++ [.connected id ok]) = []
    · simp only [if_pos hhand, if_pos hnone]
      rfl
    · simp only [if_pos hhand, if_neg hnone]
      rfl
  · simp only [if_neg hhand]
    rfl

end Greeted

theorem consistent_nil (workers : Nat) : Consistent workers [] := by
  constructor <;> simp

/-- As long as somebody has not answered, the answers are only noted. -/
theorem passes_greeted {definition : DownloadDefinition} {log : List WorkerEvent}
    {entries : List (Handshake × Nat)} {missing : Nat}
    (hlog : Consistent definition.threads.toNat log) (hnodup : (entries.map Prod.snd).Nodup)
    (hfresh : ∀ entry ∈ entries,
      entry.2 < definition.threads.toNat ∧ ∀ ok, .connected entry.2 ok ∉ log)
    (hmissing : missing < definition.threads.toNat)
    (habsent : ∀ ok, .connected missing ok ∉ log ++ entries.map .answer) :
    Consistent definition.threads.toNat (log ++ entries.map .answer) ∧
      Passes (greeted definition log) (entries.map .answers) (entries.map .answer)
        (greeted definition (log ++ entries.map .answer)) := by
  induction entries generalizing log with
  | nil => simpa using ⟨hlog, .nil _⟩
  | cons entry entries ih =>
    obtain ⟨hentry, hrest⟩ := List.forall_mem_cons.mp hfresh
    have hadmits : Admits definition.threads.toNat log (.answer entry) := hentry
    rw [List.map_cons, List.nodup_cons] at hnodup
    rw [List.map_cons, List.append_cons] at habsent
    rw [List.map_cons, List.map_cons, List.append_cons]
    have hwaiting : ¬ Handshaken definition.threads.toNat (log ++ [.answer entry]) := by
      intro hhand
      rcases hhand missing hmissing with hmem | hmem
      · exact habsent true (List.mem_append_left _ hmem)
      · exact habsent false (List.mem_append_left _ hmem)
    have hhappen := happen_greeted hlog hadmits entry.1.time
    rw [if_neg hwaiting] at hhappen
    have hlater : ∀ other ∈ entries, other.2 < definition.threads.toNat ∧
        ∀ ok, .connected other.2 ok ∉ log ++ [.answer entry] := by
      intro other hmem
      refine ⟨(hrest other hmem).1, fun ok => ?_⟩
      have hne : other.2 ≠ entry.2 := fun heq => hnodup.1 (heq ▸ List.mem_map_of_mem hmem)
      simp [(hrest other hmem).2, hne]
    obtain ⟨hconsistent, hpasses⟩ := ih (hlog.concat hadmits) hnodup.2 hlater habsent
    have hcons := Passes.cons (by rfl) hhappen hpasses
    rw [eventOf_greeted hadmits] at hcons
    exact ⟨hconsistent, hcons⟩

theorem happen_written {definition : DownloadDefinition} {log : List WorkerEvent}
    {tasks : Nat → Task} {id : Nat} (hid : id < definition.threads.toNat)
    (htask : tasks id = .requesting id) (now : Nat) :
    (staged definition log tasks).happen now id (.written true) =
        (staged definition log (Function.update tasks id (.awaiting id now)), none) ∧
      (staged definition log tasks).eventOf now id (.written true) = none := by
  have hwritten : (Task.requesting id).happen now (.written true) =
      (Task.awaiting id now, none) := rfl
  constructor
  · rw [happen, getElem?_staged hid, htask]
    simp only [hwritten, set_staged]
    rfl
  · rw [eventOf, getElem?_staged hid, Option.bind_some, htask, hwritten]

/-- Requests are sent one after the other. -/
theorem passes_written {definition : DownloadDefinition} {log : List WorkerEvent}
    {tasks : Nat → Task} {ids : List Nat} (now : Nat) (hnodup : ids.Nodup)
    (hids : ∀ id ∈ ids, id < definition.threads.toNat ∧ tasks id = .requesting id) :
    Passes (staged definition log tasks) (Agenda.forAll ids now (.written true)) []
      (staged definition log fun id => if id ∈ ids then .awaiting id now else tasks id) := by
  induction ids generalizing tasks with
  | nil => simpa using .nil _
  | cons id ids ih =>
    obtain ⟨⟨hid, htask⟩, hrest⟩ := List.forall_mem_cons.mp hids
    obtain ⟨hnew, hnodup⟩ := List.nodup_cons.mp hnodup
    obtain ⟨hhappen, hevent⟩ := @happen_written definition log tasks id hid htask now
    have hstill : ∀ other ∈ ids, other < definition.threads.toNat ∧
        Function.update tasks id (.awaiting id now) other = .requesting other := by
      intro other hmem
      have hne : other ≠ id := fun heq => hnew (heq ▸ hmem)
      rw [Function.update_of_ne hne]
      exact hrest other hmem
    have hcons := Passes.cons (by rfl) hhappen (ih hnodup hstill)
    rw [hevent] at hcons
    have htasks : (fun other => if other ∈ id :: ids then Task.awaiting other now
          else tasks other) = fun other => if other ∈ ids then Task.awaiting other now
          else Function.update tasks id (.awaiting id now) other := by
      funext other
      by_cases hother : other = id
      · subst hother
        simp
      · simp [hother]
    rw [htasks]
    exact hcons

section Overture

variable {definition : DownloadDefinition} {handshakes : List Handshake}
  (hlength : handshakes.length = definition.threads.toNat)
  (hworkers : 0 < definition.threads.toNat)
include hworkers

theorem ofDefinition_eq : ofDefinition definition = greeted definition [] := by
  simp only [ofDefinition, greeted, staged, Tracker.ofLog_nil hworkers]
  rfl

include hlength

/-- While an answer is still to come, all that came before it have been noted. -/
theorem passes_answers {before after : List (Handshake × Nat)} {entry : Handshake × Nat}
    (hordered : ordered handshakes = before ++ entry :: after) :
    Consistent definition.threads.toNat (before.map .answer) ∧
      Admits definition.threads.toNat (before.map .answer) (.answer entry) ∧
      Passes (ofDefinition definition) (before.map .answers) (before.map .answer)
        (greeted definition (before.map .answer)) := by
  have hperm := ordered_perm handshakes
  have hnodup := hperm.nodup_iff.mpr List.nodup_range
  have hbelow : ∀ other ∈ ordered handshakes, other.2 < definition.threads.toNat := by
    intro other hmem
    rw [← hlength, ← List.mem_range, ← hperm.mem_iff]
    exact List.mem_map_of_mem hmem
  rw [hordered] at hnodup hbelow
  rw [List.map_append, List.nodup_append] at hnodup
  have hmissing : ∀ ok, .connected entry.2 ok ∉ [] ++ before.map WorkerEvent.answer := by
    intro ok hmem
    rw [List.nil_append] at hmem
    obtain ⟨other, hother, heq⟩ := List.mem_map.mp hmem
    have hsame : other.2 = entry.2 := (WorkerEvent.connected.inj heq).1
    exact hnodup.2.2 _ (List.mem_map_of_mem hother) entry.2 (by simp) hsame
  have hentry : entry.2 < definition.threads.toNat := hbelow entry (by simp)
  obtain ⟨hconsistent, hpasses⟩ := passes_greeted (consistent_nil _) hnodup.1
    (fun other hmem => ⟨hbelow other (List.mem_append_left _ hmem), by simp⟩) hentry hmissing
  rw [← ofDefinition_eq hworkers, List.nil_append] at hpasses
  exact ⟨hconsistent, ⟨hentry, hmissing⟩, hpasses⟩

omit hworkers in
theorem afterLog_answers {id : Nat} (hid : id < definition.threads.toNat) :
    Task.afterLog (answers handshakes) id = .greeted id (connects handshakes id) := by
  have hget := List.getElem?_eq_getElem (l := handshakes) (hlength ▸ hid)
  simp only [Task.afterLog, connected_mem_answers, connects, hget, Option.map_some,
    Option.getD_some, Option.some.injEq]
  cases handshakes[id].accepted <;> rfl

omit hworkers in
/-- The command finds those that are connected, and nobody else. -/
theorem command_greeted :
    (greeted definition (answers handshakes)).command .beginTransfer (connected handshakes) =
      requested definition handshakes := by
  refine Download.ext rfl rfl ?_
  simp only [command, greeted, requested, staged, List.map_map]
  refine List.map_congr_left fun id hmem => ?_
  rw [Function.comp_apply, afterLog_answers hlength (List.mem_range.mp hmem)]
  have hworker : ∀ ok, (Task.greeted id ok).worker.id = id := by
    intro ok
    cases ok <;> rfl
  simp only [hworker, List.contains_eq_mem, mem_connected]
  cases connects handshakes id <;> rfl

omit hworkers in
/-- All that are connected send their requests when the last answer has come. -/
theorem passes_requested :
    Passes (requested definition handshakes)
      (Agenda.forAll (connected handshakes) (latest handshakes) (.written true)) []
      (awaiting definition handshakes) := by
  have hawaiting : awaiting definition handshakes = staged definition (answers handshakes) fun id =>
      if id ∈ connected handshakes then .awaiting id (latest handshakes)
      else if connects handshakes id then .requesting id else .greeted id false := by
    refine staged_congr fun id _ => ?_
    simp only [mem_connected]
    cases connects handshakes id <;> rfl
  rw [hawaiting]
  refine passes_written _ (List.nodup_range.filter _) fun id hmem => ?_
  rw [← hlength, if_pos (mem_connected.mp hmem)]
  exact ⟨List.mem_range.mp (List.mem_filter.mp hmem).1, rfl⟩

theorem exists_last : ∃ before last, ordered handshakes = before ++ [last] ∧
    last.1.time = latest handshakes := by
  have hperm := (ordered_perm handshakes).length_eq
  rw [List.length_map, List.length_range, hlength] at hperm
  rcases List.eq_nil_or_concat (ordered handshakes) with hnil | ⟨before, last, hordered⟩
  · rw [hnil, List.length_nil] at hperm
    omega
  · rw [List.concat_eq_append] at hordered
    refine ⟨before, last, hordered, Nat.le_antisymm ?_ (latest_le fun handshake hmem => ?_)⟩
    · have hlast : last ∈ ordered handshakes := by simp [hordered]
      exact le_latest (List.mem_of_getElem? (mem_ordered.mp hlast))
    · have hsorted : Ascending (fun entry : Handshake × Nat => entry.1.time)
          (ordered handshakes) := ascending_sortBy _
      obtain ⟨id, hget⟩ := List.getElem?_of_mem hmem
      have hentry : (handshake, id) ∈ ordered handshakes := mem_ordered.mpr hget
      rw [hordered] at hsorted hentry
      rcases List.mem_append.mp hentry with hbefore | hlast
      · exact hsorted.le_of_before _ hbefore
      · rw [← List.mem_singleton.mp hlast]

/-- All answers but the last are only noted. That one begins the transfer or ends the run. -/
theorem exists_last_answer : ∃ before last,
    ordered handshakes = before ++ [last] ∧ last.1.time = latest handshakes ∧
      Passes (ofDefinition definition) (before.map .answers) (before.map .answer)
        (greeted definition (before.map .answer)) ∧
      (greeted definition (before.map .answer)).happen last.1.time last.2
          (.connected last.1.accepted) =
        (if connected handshakes = [] then
          (greeted definition (answers handshakes), some (.error .connection))
        else (requested definition handshakes, none)) ∧
      (greeted definition (before.map .answer)).eventOf last.1.time last.2
        (.connected last.1.accepted) = some (.answer last) := by
  obtain ⟨before, last, hordered, htime⟩ := exists_last hlength hworkers
  obtain ⟨hconsistent, hadmits, hpasses⟩ := passes_answers hlength hworkers hordered
  have hanswers : before.map .answer ++ [.answer last] = answers handshakes := by
    rw [answers, hordered, List.map_append]
    rfl
  have hhappen := happen_greeted hconsistent hadmits last.1.time
  rw [hanswers, if_pos (handshaken_answers hlength), connectedOf_answers hlength,
    command_greeted hlength] at hhappen
  exact ⟨before, last, hordered, htime, hpasses, hhappen, eventOf_greeted hadmits _⟩

/-- All workers have answered, and those that are connected have sent their requests. -/
theorem passes_overture (hsome : connected handshakes ≠ []) :
    Passes (ofDefinition definition) (Agenda.overture handshakes) (answers handshakes)
      (awaiting definition handshakes) := by
  obtain ⟨before, last, hordered, -, hpasses, hhappen, hevent⟩ :=
    exists_last_answer hlength hworkers
  rw [if_neg hsome] at hhappen
  have hbegins := Passes.cons (by rfl) hhappen (.nil _)
  rw [hevent] at hbegins
  have hall := (hpasses.trans hbegins).trans (passes_requested hlength)
  rw [Agenda.overture, answers, hordered, List.map_append, List.map_append]
  simpa using hall

/-- If nobody is connected, the last answer ends the run. -/
theorem advance_unconnected (hnone : connected handshakes = []) (now : Nat) (rest : Agenda) :
    (ofDefinition definition).advance now ((ordered handshakes).map .answers ++ rest) =
      ⟨greeted definition (answers handshakes), latest handshakes, .error .connection⟩ := by
  obtain ⟨before, last, hordered, htime, hpasses, hhappen, -⟩ :=
    exists_last_answer hlength hworkers
  rw [if_pos hnone] at hhappen
  rw [hordered, List.map_append, List.append_assoc, (hpasses.advance now _).1]
  have hexpired : (greeted definition (before.map .answer)).coordinator.expired? last.1.time =
      none := rfl
  simp only [List.map_cons, List.map_nil, List.singleton_append, advance, hexpired, hhappen]
  rw [htime]

end Overture

end Download

end Throughput
