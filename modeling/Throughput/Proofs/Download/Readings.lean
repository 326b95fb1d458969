import Mathlib.Data.Finset.Lattice.Fold
import Mathlib.Order.Lattice.Nat
import Throughput.Download.Agenda
import Throughput.Download.Coordinator
import Throughput.Proofs.Tracker.Counts
import Throughput.Proofs.Worker.Readings

/-!
# What the workers read

An agenda from the point of view of its workers: what each of them reads, which of them download,
when the last of them has its first-byte outcome, and what a coordinator concludes from that.
-/

namespace Throughput

abbrev Appointment.reads (id : Nat) (timed : TimedReading) : Appointment :=
  ⟨timed.time, .worker id (.read timed.reading)⟩

namespace Agenda

def readings (id : Nat) (agenda : Agenda) : Readings :=
  agenda.filterMap fun appointment =>
    match appointment.occurrence with
    | .worker other (.read reading) =>
      if other = id then some ⟨appointment.time, reading⟩ else none
    | _ => none

/-- Every worker has its first-byte outcome. -/
def Answered (workers : Nat) (agenda : Agenda) : Prop :=
  ∀ id < workers, agenda.readings id ≠ []

instance (workers : Nat) (agenda : Agenda) : Decidable (Answered workers agenda) :=
  inferInstanceAs (Decidable (∀ id < workers, _))

def downloading (workers : Nat) (agenda : Agenda) : List Nat :=
  (List.range workers).filter fun id => (agenda.readings id).delivers

def settledAt (workers : Nat) (agenda : Agenda) : Nat :=
  (Finset.range workers).sup fun id => (agenda.readings id).firstTime

def said (workers : Nat) (agenda : Agenda) : List WorkerEvent :=
  (List.range workers).flatMap fun id => Task.said id (agenda.readings id)

/-- The window that is open after all this. -/
def window? (definition : DownloadDefinition) (agenda : Agenda) : Option Window :=
  let workers := definition.threads.toNat
  if agenda.Answered workers ∧ agenda.downloading workers ≠ [] then
    some (.ofDefinition definition (agenda.settledAt workers))
  else none

/-- What the coordinator has concluded from all this. -/
def verdict? (definition : DownloadDefinition) (agenda : Agenda) :
    Option (Except MeasureError Nat) :=
  let workers := definition.threads.toNat
  if agenda.Answered workers then
    if agenda.downloading workers = [] then some (.error .transfer)
    else if ∀ id ∈ agenda.downloading workers, (agenda.readings id).closes then
      some (.ok (Window.ofDefinition definition (agenda.settledAt workers)).start)
    else none
  else none

section Verdict

variable {definition : DownloadDefinition} {agenda : Agenda}

theorem window?_of_waiting (h : ¬ agenda.Answered definition.threads.toNat) :
    agenda.window? definition = none :=
  if_neg fun hboth => h hboth.1

theorem window?_of_silent (h : agenda.downloading definition.threads.toNat = []) :
    agenda.window? definition = none :=
  if_neg fun hboth => hboth.2 h

theorem window?_eq_some {window : Window} : agenda.window? definition = some window ↔
    agenda.Answered definition.threads.toNat ∧
      agenda.downloading definition.threads.toNat ≠ [] ∧
      window = .ofDefinition definition (agenda.settledAt definition.threads.toNat) := by
  rw [window?, Option.ite_none_right_eq_some, Option.some.injEq, and_assoc, @eq_comm _ window]

theorem verdict?_of_waiting (h : ¬ agenda.Answered definition.threads.toNat) :
    agenda.verdict? definition = none :=
  if_neg h

theorem verdict?_of_silent (hanswered : agenda.Answered definition.threads.toNat)
    (hsilent : agenda.downloading definition.threads.toNat = []) :
    agenda.verdict? definition = some (.error .transfer) := by
  rw [verdict?, if_pos hanswered, if_pos hsilent]

section Open

variable (hanswered : agenda.Answered definition.threads.toNat)
  (hdown : agenda.downloading definition.threads.toNat ≠ [])
include hanswered hdown

theorem window?_of_open : agenda.window? definition =
    some (.ofDefinition definition (agenda.settledAt definition.threads.toNat)) :=
  if_pos ⟨hanswered, hdown⟩

theorem verdict?_of_open : agenda.verdict? definition =
    if ∀ id ∈ agenda.downloading definition.threads.toNat, (agenda.readings id).closes then
      some (.ok (Window.ofDefinition definition
        (agenda.settledAt definition.threads.toNat)).start)
    else none := by
  rw [verdict?, if_pos hanswered, if_neg hdown]

end Open

end Verdict

section Said

variable {workers : Nat} {agenda : Agenda}

theorem mem_said {event : WorkerEvent} : event ∈ agenda.said workers ↔
    event.worker < workers ∧ event ∈ Task.said event.worker (agenda.readings event.worker) := by
  simp only [said, List.mem_flatMap, List.mem_range]
  constructor
  · rintro ⟨id, hid, hmem⟩
    rw [Task.worker_of_mem_said hmem]
    exact ⟨hid, hmem⟩
  · rintro ⟨hworker, hmem⟩
    exact ⟨event.worker, hworker, hmem⟩

theorem connected_mem_said {id : Nat} {ok : Bool} :
    .connected id ok ∈ agenda.said workers ↔ id < workers ∧ ok = true := by
  simp [mem_said, WorkerEvent.worker]

theorem firstByte_mem_said {id : Nat} {ok : Bool} :
    .firstByte id ok ∈ agenda.said workers ↔
      id < workers ∧ agenda.readings id ≠ [] ∧ ok = (agenda.readings id).delivers := by
  simp [mem_said, WorkerEvent.worker]

theorem disconnected_mem_said {id : Nat} :
    .disconnected id ∈ agenda.said workers ↔ id < workers ∧
      (agenda.readings id).delivers = true ∧ (agenda.readings id).closes = true := by
  simp [mem_said, WorkerEvent.worker]

theorem handshaken_said : Handshaken workers (agenda.said workers) :=
  fun _ hworker => Or.inl (connected_mem_said.mpr ⟨hworker, rfl⟩)

theorem consistent_said : Consistent workers (agenda.said workers) where
  below := fun _ _ hmem => (connected_mem_said.mp hmem).1
  connected := fun _ _ hmem => Bool.false_ne_true (connected_mem_said.mp hmem).2
  begun := fun _ _ hmem =>
    ⟨handshaken_said, connected_mem_said.mpr ⟨(firstByte_mem_said.mp hmem).1, rfl⟩⟩
  firstByte := fun _ htrue hfalse => Bool.false_ne_true <|
    (firstByte_mem_said.mp hfalse).2.2.trans (firstByte_mem_said.mp htrue).2.2.symm
  disconnected := by
    intro id hmem
    obtain ⟨hid, hdelivers, -⟩ := disconnected_mem_said.mp hmem
    exact firstByte_mem_said.mpr ⟨hid, Readings.ne_nil_of_delivers hdelivers, hdelivers.symm⟩

theorem settled_said (hworkers : 0 < workers) :
    Settled workers (agenda.said workers) ↔ agenda.Answered workers := by
  constructor
  · rintro ⟨-, -, hreported⟩ id hid
    rcases hreported id hid (connected_mem_said.mpr ⟨hid, rfl⟩) with hmem | hmem
    · exact (firstByte_mem_said.mp hmem).2.1
    · exact (firstByte_mem_said.mp hmem).2.1
  · intro hanswered
    refine ⟨handshaken_said, ⟨0, hworkers, connected_mem_said.mpr ⟨hworkers, rfl⟩⟩, ?_⟩
    intro id hid _
    cases hdelivers : (agenda.readings id).delivers with
    | true => exact Or.inl (firstByte_mem_said.mpr ⟨hid, hanswered id hid, hdelivers.symm⟩)
    | false => exact Or.inr (firstByte_mem_said.mpr ⟨hid, hanswered id hid, hdelivers.symm⟩)

theorem downloadingOf_said : downloadingOf workers (agenda.said workers) =
    agenda.downloading workers := by
  apply List.filter_congr
  intro id hmem
  rw [Bool.eq_iff_iff, decide_eq_true_iff, firstByte_mem_said]
  constructor
  · rintro ⟨-, -, hdelivers⟩
    exact hdelivers.symm
  · intro hdelivers
    exact ⟨List.mem_range.mp hmem, Readings.ne_nil_of_delivers hdelivers, hdelivers.symm⟩

theorem allGone_said (hworkers : 0 < workers) :
    AllGone workers (agenda.said workers) ↔ agenda.Answered workers ∧
      ∀ id ∈ agenda.downloading workers, (agenda.readings id).closes = true := by
  rw [AllGone, settled_said hworkers, ← downloadingOf_said]
  refine and_congr_right fun _ => ?_
  simp only [mem_reporters, and_imp]
  refine forall₂_congr fun id hid => forall_congr' fun hdown => ?_
  rw [disconnected_mem_said]
  obtain ⟨-, -, hdelivers⟩ := firstByte_mem_said.mp hdown
  simp [hid, ← hdelivers]

end Said

end Agenda

namespace Agenda

section Concat

variable {workers id : Nat} {timed : TimedReading} {before : Agenda}

theorem readings_append (id : Nat) (left right : Agenda) :
    readings id (left ++ right) = readings id left ++ readings id right :=
  List.filterMap_append

theorem readings_concat (other : Nat) :
    readings other (before ++ [.reads id timed]) =
      readings other before ++ if id = other then [timed] else [] := by
  rw [readings_append]
  by_cases hother : id = other <;> simp [readings, hother]

theorem late_concat (hlate : ∀ appointment ∈ before, appointment.time ≤ timed.time) :
    ∀ appointment ∈ before ++ [.reads id timed], appointment.time ≤ timed.time := by
  intro appointment hmem
  rcases List.mem_append.mp hmem with hbefore | hlast
  · exact hlate appointment hbefore
  · exact Nat.le_of_eq (congrArg Appointment.time (List.mem_singleton.mp hlast))

theorem mem_readings {agenda : Agenda} :
    timed ∈ agenda.readings id ↔ Appointment.reads id timed ∈ agenda := by
  rw [readings, List.mem_filterMap]
  constructor
  · rintro ⟨⟨time, occurrence⟩, hmem, hpick⟩
    rcases occurrence with ⟨other, _ | _ | reading⟩ | _ <;> simp only at hpick <;> try cases hpick
    split at hpick
    · next hother =>
      cases hpick
      exact hother ▸ hmem
    · cases hpick
  · intro hmem
    exact ⟨_, hmem, by simp⟩

theorem firstTime_le {time : Nat} (hlate : ∀ appointment ∈ before, appointment.time ≤ time) :
    (before.readings id).firstTime ≤ time := by
  cases hreadings : before.readings id with
  | nil => exact Nat.zero_le _
  | cons first rest =>
    exact hlate _ (mem_readings.mp (hreadings ▸ List.mem_cons_self))

theorem settledAt_first (hlate : ∀ appointment ∈ before, appointment.time ≤ timed.time)
    (hid : id < workers) (hfirst : before.readings id = []) :
    settledAt workers (before ++ [.reads id timed]) = timed.time := by
  apply Nat.le_antisymm
  · exact Finset.sup_le fun other _ => firstTime_le (late_concat hlate)
  · have hown : (readings id (before ++ [.reads id timed])).firstTime = timed.time := by
      rw [readings_concat, hfirst, if_pos rfl]
      rfl
    calc
      timed.time = (readings id (before ++ [.reads id timed])).firstTime := hown.symm
      _ ≤ _ := Finset.le_sup (f := fun other => (readings other
          (before ++ [.reads id timed])).firstTime) (Finset.mem_range.mpr hid)

section Later

variable (hbegun : before.readings id ≠ [])
include hbegun

theorem answered_later :
    Answered workers (before ++ [.reads id timed]) ↔
      Answered workers before := by
  refine forall₂_congr fun other _ => ?_
  rw [readings_concat]
  by_cases hother : id = other
  · subst hother
    simp [hbegun]
  · simp [hother]

theorem downloading_later :
    downloading workers (before ++ [.reads id timed]) =
      downloading workers before := by
  refine List.filter_congr fun other _ => ?_
  rw [readings_concat]
  by_cases hother : id = other
  · subst hother
    rw [Readings.delivers_append hbegun]
  · rw [if_neg hother, List.append_nil]

theorem settledAt_later :
    settledAt workers (before ++ [.reads id timed]) =
      settledAt workers before := by
  refine Finset.sup_congr rfl fun other _ => ?_
  rw [readings_concat]
  by_cases hother : id = other
  · subst hother
    rw [Readings.firstTime_append hbegun]
  · rw [if_neg hother, List.append_nil]

theorem window?_later (definition : DownloadDefinition) :
    window? definition (before ++ [.reads id timed]) =
      window? definition before := by
  simp only [window?, answered_later hbegun, downloading_later hbegun, settledAt_later hbegun]

end Later

end Concat

section Congr

variable {workers : Nat} {left right : Agenda}
  (h : ∀ id < workers, left.readings id = right.readings id)
include h

theorem answered_congr : left.Answered workers ↔ right.Answered workers :=
  forall₂_congr fun id hid => by rw [h id hid]

theorem downloading_congr : left.downloading workers = right.downloading workers :=
  List.filter_congr fun id hmem => by rw [h id (List.mem_range.mp hmem)]

theorem settledAt_congr : left.settledAt workers = right.settledAt workers :=
  Finset.sup_congr rfl fun id hmem => by rw [h id (Finset.mem_range.mp hmem)]

theorem said_congr : left.said workers = right.said workers := by
  simp only [said, List.flatMap]
  congr 1
  exact List.map_congr_left fun id hmem => by rw [h id (List.mem_range.mp hmem)]

end Congr

theorem window?_congr {definition : DownloadDefinition} {left right : Agenda}
    (h : ∀ id < definition.threads.toNat, left.readings id = right.readings id) :
    left.window? definition = right.window? definition := by
  simp only [window?, answered_congr h, downloading_congr h, settledAt_congr h]

theorem verdict?_congr {definition : DownloadDefinition} {left right : Agenda}
    (h : ∀ id < definition.threads.toNat, left.readings id = right.readings id) :
    left.verdict? definition = right.verdict? definition := by
  have hcloses : (∀ id ∈ right.downloading definition.threads.toNat,
        (left.readings id).closes = true) ↔
      ∀ id ∈ right.downloading definition.threads.toNat, (right.readings id).closes = true :=
    forall₂_congr fun id hmem => by
      rw [h id (List.mem_range.mp (List.mem_filter.mp hmem).1)]
  simp only [verdict?, answered_congr h, downloading_congr h, settledAt_congr h, hcloses]

end Agenda

end Throughput
