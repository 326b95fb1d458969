import Throughput.Proofs.Download.Forecast

/-!
# What the servers do to the workers

The agenda of a run, worker by worker: what its server does in order of time, with the first-byte
timeout put before everything that does not come earlier.
-/

namespace Throughput

def Action.readings (action : Action) : Readings :=
  action.deed.readings.map fun reading => ⟨action.time, reading⟩

theorem Action.time_of_mem_readings (action : Action) :
    ∀ timed ∈ action.readings, timed.time = action.time := by
  intro timed hmem
  obtain ⟨reading, -, rfl⟩ := List.mem_map.mp hmem
  rfl

def Readings.ofActions (actions : List Action) : Readings :=
  (sortBy Action.time actions).flatMap Action.readings

/-- Whether the first byte of a worker comes in time, and when that is settled. -/
inductive FirstByte where
  | ok (time : Nat)
  | failed (time : Nat)
  deriving DecidableEq, Repr

namespace FirstByte

def time : FirstByte → Nat
  | .ok time | .failed time => time

def isOk : FirstByte → Bool
  | .ok _ => true
  | .failed _ => false

/-- The first thing that a server does has to be a byte before the timeout. -/
def ofReadings (timeout : Nat) : Readings → FirstByte
  | [] => .failed timeout
  | first :: _ =>
    if first.brings then
      if first.time < timeout then .ok first.time else .failed timeout
    else .failed (min first.time timeout)

end FirstByte

namespace Agenda

/-- Everything that comes after the requests of these workers, counted from there. -/
def plan (workers : List Nat) (timeout : Nat) (scripts : List (List Action))
    (cancelAt : Option Nat) : Agenda :=
  sort (forAll workers timeout (.read .timeout) ++ ofScripts scripts ++ ofCancel cancelAt)

theorem ascending_plan (workers : List Nat) (timeout : Nat) (scripts : List (List Action))
    (cancelAt : Option Nat) :
    Ascending Appointment.time (plan workers timeout scripts cancelAt) :=
  ascending_sortBy _

theorem mem_plan {workers : List Nat} {timeout : Nat} {scripts : List (List Action)}
    {cancelAt : Option Nat} {appointment : Appointment}
    (hmem : appointment ∈ plan workers timeout scripts cancelAt) :
    (∃ time, cancelAt = some time ∧ appointment = ⟨time, .cancel⟩) ∨
      ∃ id timed, appointment = .reads id timed := by
  rw [plan, sort, List.mem_mergeSort, List.mem_append, List.mem_append] at hmem
  rcases hmem with (htimeout | hscript) | hcancel
  · obtain ⟨id, -, rfl⟩ := List.mem_map.mp htimeout
    exact Or.inr ⟨id, ⟨timeout, .timeout⟩, rfl⟩
  · obtain ⟨⟨actions, id⟩, -, hactions⟩ := List.mem_flatMap.mp hscript
    obtain ⟨action, -, hread⟩ := List.mem_flatMap.mp hactions
    obtain ⟨reading, -, rfl⟩ := List.mem_map.mp hread
    exact Or.inr ⟨id, ⟨action.time, reading⟩, rfl⟩
  · cases cancelAt with
    | none => cases hcancel
    | some time => exact Or.inl ⟨time, rfl, List.mem_singleton.mp hcancel⟩

theorem plain_plan (workers : List Nat) (timeout : Nat) (scripts : List (List Action))
    (cancelAt : Option Nat) : Plain (plan workers timeout scripts cancelAt) := by
  intro appointment hmem
  rcases mem_plan hmem with ⟨time, -, rfl⟩ | hreads
  · exact Or.inl rfl
  · exact Or.inr hreads

/-! ### What one worker reads -/

theorem readings_forAll {workers : List Nat} (hnodup : workers.Nodup) (id time : Nat)
    (reading : Reading) :
    readings id (forAll workers time (.read reading)) =
      if id ∈ workers then [⟨time, reading⟩] else [] := by
  induction workers with
  | nil => rfl
  | cons worker rest ih =>
    obtain ⟨hnew, hnodup⟩ := List.nodup_cons.mp hnodup
    have hcons : forAll (worker :: rest) time (.read reading) =
        [.reads worker ⟨time, reading⟩] ++ forAll rest time (.read reading) := rfl
    rw [hcons, readings_append, ih hnodup]
    by_cases hid : id = worker
    · subst hid
      simp [readings, hnew]
    · simp [readings, hid, Ne.symm hid]

theorem readings_map_reads (id other time : Nat) (brought : List Reading) :
    readings id (brought.map fun reading => ⟨time, .worker other (.read reading)⟩) =
      if other = id then brought.map fun reading => ⟨time, reading⟩ else [] := by
  rw [readings, List.filterMap_map]
  by_cases hother : other = id
  · rw [if_pos hother, ← List.filterMap_eq_map]
    simp [hother]
  · rw [if_neg hother, List.filterMap_eq_nil_iff]
    simp [hother]

theorem readings_ofActions (id other : Nat) (actions : List Action) :
    readings id (ofActions other actions) =
      if other = id then actions.flatMap Action.readings else [] := by
  induction actions with
  | nil => simp [ofActions, readings]
  | cons action rest ih =>
    rw [ofActions, List.flatMap_cons, readings_append, readings_map_reads, ← ofActions, ih]
    split <;> rfl

theorem readings_flatMap (id first : Nat) (scripts : List (List Action)) :
    readings id ((scripts.zipIdx first).flatMap fun (actions, id) => ofActions id actions) =
      if first ≤ id then (scripts[id - first]?.getD []).flatMap Action.readings else [] := by
  induction scripts generalizing first with
  | nil => simp [readings]
  | cons actions rest ih =>
    rw [List.zipIdx_cons, List.flatMap_cons, readings_append, ih, readings_ofActions]
    rcases Nat.lt_trichotomy first id with hlt | rfl | hgt
    · have hindex : id - first = id - (first + 1) + 1 := by omega
      simp [Nat.ne_of_lt hlt, Nat.le_of_lt hlt, Nat.succ_le_of_lt hlt, hindex]
    · simp
    · have hnot : ¬ first + 1 ≤ id := by omega
      simp [Nat.ne_of_gt hgt, Nat.not_le_of_lt hgt, hnot]

theorem readings_ofScripts (scripts : List (List Action)) (id : Nat) :
    readings id (ofScripts scripts) = (scripts[id]?.getD []).flatMap Action.readings := by
  rw [ofScripts, readings_flatMap, if_pos (Nat.zero_le id), Nat.sub_zero]

theorem readings_ofCancel (cancelAt : Option Nat) (id : Nat) :
    readings id (ofCancel cancelAt) = [] := by
  cases cancelAt <;> rfl

theorem readings_sort (id : Nat) (agenda : Agenda) :
    readings id agenda.sort = sortBy TimedReading.time (agenda.readings id) := by
  refine @filterMap_sortBy _ _ Appointment.time TimedReading.time _ ?_ agenda
  rintro ⟨time, occurrence⟩ timed hpick
  have hmem : timed ∈ readings id [⟨time, occurrence⟩] := by
    rw [readings, List.mem_filterMap]
    exact ⟨_, List.mem_singleton_self _, hpick⟩
  exact congrArg Appointment.time (List.mem_singleton.mp (mem_readings.mp hmem))

theorem ascending_readings {agenda : Agenda} (h : Ascending Appointment.time agenda) (id : Nat) :
    Ascending TimedReading.time (agenda.readings id) := by
  have hsorted : agenda.sort = agenda := List.mergeSort_of_pairwise (h.imp decide_eq_true)
  rw [← hsorted, readings_sort]
  exact ascending_sortBy _

theorem ofActions_eq (actions : List Action) :
    Readings.ofActions actions =
      sortBy TimedReading.time (actions.flatMap Action.readings) := by
  exact flatMap_sortBy Action.time_of_mem_readings actions

section Readings

variable {workers : List Nat} {id : Nat} (timeout : Nat) (scripts : List (List Action))
  (cancelAt : Option Nat) (hnodup : workers.Nodup)
include hnodup

theorem readings_plan_sorted (hid : id ∈ workers) :
    readings id (plan workers timeout scripts cancelAt) =
      sortBy TimedReading.time
        (⟨timeout, .timeout⟩ :: (scripts[id]?.getD []).flatMap Action.readings) := by
  rw [plan, readings_sort, readings_append, readings_append, readings_forAll hnodup, if_pos hid,
    readings_ofScripts, readings_ofCancel, List.append_nil, List.singleton_append]

/-- A worker without a request, whose server does nothing either, reads nothing. -/
theorem readings_plan_absent (hid : id ∉ workers) (hidle : scripts[id]?.getD [] = []) :
    readings id (plan workers timeout scripts cancelAt) = [] := by
  rw [plan, readings_sort, readings_append, readings_append, readings_forAll hnodup, if_neg hid,
    readings_ofScripts, readings_ofCancel, hidle, List.flatMap_nil, List.append_nil,
    List.append_nil, sortBy, List.mergeSort_nil]

theorem readings_plan (hid : id ∈ workers) :
    ∃ early late, Readings.ofActions (scripts[id]?.getD []) = early ++ late ∧
      readings id (plan workers timeout scripts cancelAt) =
        early ++ ⟨timeout, .timeout⟩ :: late ∧
      (∀ timed ∈ early, timed.time < timeout) ∧ ∀ timed ∈ late, timeout ≤ timed.time := by
  have hplan := readings_plan_sorted timeout scripts cancelAt hnodup hid
  obtain ⟨early, late, hwhole, hscript, hearly⟩ :=
    List.mergeSort_cons keyLe_trans (@keyLe_total _ TimedReading.time) ⟨timeout, .timeout⟩
      ((scripts[id]?.getD []).flatMap Action.readings)
  refine ⟨early, late, (ofActions_eq _).trans hscript, hplan.trans hwhole, ?_, ?_⟩
  · intro timed hmem
    have hlt := hearly timed hmem
    simpa using hlt
  · have hsorted : Ascending TimedReading.time (sortBy TimedReading.time
        (⟨timeout, .timeout⟩ :: (scripts[id]?.getD []).flatMap Action.readings)) :=
      ascending_sortBy _
    rw [sortBy, hwhole] at hsorted
    exact hsorted.le_of_after

/-- Every one of the workers reads something, its timeout if nothing else. -/
theorem readings_plan_ne_nil (hid : id ∈ workers) :
    readings id (plan workers timeout scripts cancelAt) ≠ [] := by
  obtain ⟨early, late, -, hreadings, -⟩ := readings_plan timeout scripts cancelAt hnodup hid
  rw [hreadings]
  simp

end Readings

theorem answered_plan (workers timeout : Nat) (scripts : List (List Action))
    (cancelAt : Option Nat) :
    (plan (List.range workers) timeout scripts cancelAt).Answered workers :=
  fun _ hid =>
    readings_plan_ne_nil timeout scripts cancelAt List.nodup_range (List.mem_range.mpr hid)

theorem complete_plan (workers timeout : Nat) (scripts : List (List Action)) :
    (plan (List.range workers) timeout scripts none).Complete workers where
  ascending := ascending_plan ..
  reads := by
    intro appointment hmem
    rcases mem_plan hmem with ⟨time, hcancel, -⟩ | hreads
    · cases hcancel
    · exact hreads
  answered := answered_plan workers timeout scripts none

/-! ### Cancellations -/

def upTo (time : Nat) (agenda : Agenda) : Agenda :=
  agenda.filter fun appointment => appointment.time ≤ time

def beyond (time : Nat) (agenda : Agenda) : Agenda :=
  agenda.filter fun appointment => time < appointment.time

/-- The agenda with a cancellation, if there is one. It comes last on its instant. -/
def withCancel (agenda : Agenda) : Option Nat → Agenda
  | some time => agenda.upTo time ++ ⟨time, .cancel⟩ :: agenda.beyond time
  | none => agenda

section WithCancel

variable {workers time : Nat} {agenda : Agenda}

theorem le_of_mem_upTo : ∀ appointment ∈ agenda.upTo time, appointment.time ≤ time :=
  fun _ hmem => of_decide_eq_true (List.mem_filter.mp hmem).2

theorem lt_of_mem_beyond : ∀ appointment ∈ agenda.beyond time, time < appointment.time :=
  fun _ hmem => of_decide_eq_true (List.mem_filter.mp hmem).2

theorem plan_eq_withCancel (workers : List Nat) (timeout : Nat) (scripts : List (List Action))
    (cancelAt : Option Nat) :
    plan workers timeout scripts cancelAt =
      (plan workers timeout scripts none).withCancel cancelAt := by
  cases cancelAt with
  | none => rfl
  | some time =>
    have hsorted := @sortBy_concat _ Appointment.time
      (forAll workers timeout (.read .timeout) ++ ofScripts scripts) ⟨time, .cancel⟩
    simpa [plan, ofCancel, sort, withCancel, upTo, beyond] using hsorted

variable (hcomplete : agenda.Complete workers)
include hcomplete

theorem Complete.split (time : Nat) : agenda = agenda.upTo time ++ agenda.beyond time :=
  hcomplete.ascending.split time

theorem Complete.ascending_withCancel (cancelAt : Option Nat) :
    Ascending Appointment.time (agenda.withCancel cancelAt) := by
  cases cancelAt with
  | none => exact hcomplete.ascending
  | some time =>
    refine List.pairwise_append.mpr ⟨hcomplete.ascending.filter _,
      List.pairwise_cons.mpr ⟨?_, hcomplete.ascending.filter _⟩, ?_⟩
    · intro appointment hmem
      exact Nat.le_of_lt (lt_of_mem_beyond appointment hmem)
    · intro early hearly late hlate
      have hle := le_of_mem_upTo early hearly
      rcases List.mem_cons.mp hlate with rfl | hlater
      · exact hle
      · exact Nat.le_trans hle (Nat.le_of_lt (lt_of_mem_beyond late hlater))

theorem Complete.plain_withCancel (cancelAt : Option Nat) : (agenda.withCancel cancelAt).Plain := by
  cases cancelAt with
  | none => exact hcomplete.plain
  | some time =>
    intro appointment hmem
    rcases List.mem_append.mp hmem with hbefore | hrest
    · exact hcomplete.plain appointment (List.mem_of_mem_filter hbefore)
    · rcases List.mem_cons.mp hrest with rfl | hafter
      · exact Or.inl rfl
      · exact hcomplete.plain appointment (List.mem_of_mem_filter hafter)

/-- A cancellation changes nothing of what the workers would read. -/
theorem Complete.readings_withCancel (cancelAt : Option Nat) (id : Nat) :
    (agenda.withCancel cancelAt).readings id = agenda.readings id := by
  cases cancelAt with
  | none => rfl
  | some time =>
    have hsplit := congrArg (readings id) (hcomplete.split time)
    rw [readings_append] at hsplit
    rw [withCancel, readings_append, ← List.singleton_append, readings_append, hsplit]
    rfl

theorem Complete.lt_of_after_cancel {cancelAt : Option Nat} {done rest : Agenda}
    (hagenda : agenda.withCancel cancelAt = done ++ ⟨time, .cancel⟩ :: rest) :
    ∀ appointment ∈ rest, time < appointment.time := by
  have hnever : ∀ kept : Appointment → Bool, ⟨time, .cancel⟩ ∉ agenda.filter kept :=
    fun kept hmem => hcomplete.ne_cancel _ (List.mem_of_mem_filter hmem) rfl
  cases cancelAt with
  | none =>
    have hsplit : agenda = done ++ ⟨time, .cancel⟩ :: rest := hagenda
    have hmem : ⟨time, .cancel⟩ ∈ agenda := by
      rw [hsplit]
      exact List.mem_append_right _ List.mem_cons_self
    exact absurd rfl (hcomplete.ne_cancel _ hmem)
  | some moment =>
    obtain ⟨-, hsame, rfl⟩ :=
      (List.append_cons_inj_of_notMem (hnever _) (hnever _)).mp hagenda
    cases hsame
    exact lt_of_mem_beyond

end WithCancel

end Agenda

/-! ### The timeout and the server -/

section Merged

variable {timeout : Nat} {early late : Readings}

theorem closes_merged :
    Readings.closes (early ++ ⟨timeout, .timeout⟩ :: late) = Readings.closes (early ++ late) := by
  simp [Readings.closes, TimedReading.ends]

theorem closingTime_merged :
    Readings.closingTime (early ++ ⟨timeout, .timeout⟩ :: late) =
      Readings.closingTime (early ++ late) := by
  simp [Readings.closingTime, TimedReading.ends, List.find?_append]

theorem samples_merged :
    Readings.samples (early ++ ⟨timeout, .timeout⟩ :: late) = Readings.samples (early ++ late) := by
  rw [Readings.samples_append, Readings.samples_append]
  rfl

theorem samples_filter_merged (keep : TimedReading → Bool) :
    Readings.samples ((early ++ ⟨timeout, .timeout⟩ :: late).filter keep) =
      Readings.samples ((early ++ late).filter keep) := by
  simp only [List.filter_append, List.filter_cons]
  split
  · exact samples_merged
  · rfl

theorem firstByte_merged (hearly : ∀ timed ∈ early, timed.time < timeout)
    (hlate : ∀ timed ∈ late, timeout ≤ timed.time) :
    Readings.delivers (early ++ ⟨timeout, .timeout⟩ :: late) =
        (FirstByte.ofReadings timeout (early ++ late)).isOk ∧
      Readings.firstTime (early ++ ⟨timeout, .timeout⟩ :: late) =
        (FirstByte.ofReadings timeout (early ++ late)).time := by
  cases early with
  | nil =>
    cases late with
    | nil => exact ⟨rfl, rfl⟩
    | cons first rest =>
      have hle : timeout ≤ first.time := hlate first List.mem_cons_self
      have hnot : ¬ first.time < timeout := Nat.not_lt.mpr hle
      cases hbrings : first.brings <;>
        simp [FirstByte.ofReadings, hnot, Nat.min_eq_right hle, FirstByte.isOk,
          FirstByte.time, Readings.delivers, Readings.firstTime, TimedReading.brings]
  | cons first rest =>
    have hlt : first.time < timeout := hearly first List.mem_cons_self
    cases hbrings : first.brings <;>
      simp [FirstByte.ofReadings, hbrings, hlt, Nat.min_eq_left (Nat.le_of_lt hlt), FirstByte.isOk,
        FirstByte.time, Readings.delivers, Readings.firstTime]

end Merged

end Throughput
