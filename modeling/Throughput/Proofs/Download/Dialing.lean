import Throughput.Proofs.Download.Delay.Answer

/-!
# Workers that dial

A run whose workers get their answers at different times, or are not connected at all, is the run of
those that are connected, delayed until the last answer has come.
-/

namespace Throughput

open Agenda Handshake

namespace Handshake

/-- The workers that are not connected. -/
def unconnected (handshakes : List Handshake) : List Nat :=
  (List.range handshakes.length).filter fun id => !connects handshakes id

/-- What the workers that are not connected might as well read: their servers reset at once. -/
def lost (handshakes : List Handshake) : Agenda :=
  (unconnected handshakes).map fun id => .reads id ⟨0, .broken⟩

variable {handshakes : List Handshake}

theorem mem_unconnected {id : Nat} : id ∈ unconnected handshakes ↔
    id < handshakes.length ∧ connects handshakes id = false := by
  simp [unconnected]

theorem readings_lost (id : Nat) :
    (lost handshakes).readings id =
      if id ∈ unconnected handshakes then [⟨0, .broken⟩] else [] :=
  readings_forAll (List.nodup_range.filter _) id 0 .broken

theorem time_of_mem_lost : ∀ appointment ∈ lost handshakes, appointment.time = 0 := by
  intro appointment hmem
  obtain ⟨id, -, rfl⟩ := List.mem_map.mp hmem
  rfl

theorem upTo_lost (time : Nat) : (lost handshakes).upTo time = lost handshakes :=
  List.filter_eq_self.mpr fun appointment hmem => by
    rw [time_of_mem_lost appointment hmem]
    exact decide_eq_true (Nat.zero_le time)

theorem beyond_lost (time : Nat) : (lost handshakes).beyond time = [] :=
  List.filter_eq_nil_iff.mpr fun appointment hmem => by
    simp [time_of_mem_lost appointment hmem]

theorem withCancel_lost_append (agenda : Agenda) (cancelAt : Option Nat) :
    (lost handshakes ++ agenda).withCancel cancelAt =
      lost handshakes ++ agenda.withCancel cancelAt := by
  cases cancelAt with
  | none => rfl
  | some time =>
    have hkept := @upTo_lost handshakes time
    have hnone := @beyond_lost handshakes time
    simp only [withCancel, upTo, beyond, List.filter_append] at hkept hnone ⊢
    rw [hkept, hnone, List.nil_append, List.append_assoc]

theorem downloading_lost (workers : Nat) : (lost handshakes).downloading workers = [] := by
  refine List.filter_eq_nil_iff.mpr fun id _ => ?_
  rw [readings_lost]
  split <;> exact Bool.false_ne_true

/-- The workers that are connected are still to be heard of. -/
theorem not_answered_lost (hsome : connected handshakes ≠ []) :
    ¬ (lost handshakes).Answered handshakes.length := by
  intro hanswered
  obtain ⟨id, hmem⟩ := List.exists_mem_of_ne_nil _ hsome
  refine hanswered id (List.mem_range.mp (List.mem_of_mem_filter hmem)) ?_
  simp [readings_lost, mem_unconnected, mem_connected.mp hmem]

end Handshake

namespace Download

theorem awaiting_eq_delay (id now : Nat) :
    Task.awaiting id now = (Task.ofReadings id []).delay now := by
  have hearly : Task.ofReadings id [] = Task.awaiting id 0 := rfl
  rw [hearly]
  simp [Task.awaiting, Task.delay, Worker.delay, Worker.await]

section Awaiting

variable {definition : DownloadDefinition} {handshakes : List Handshake}
  (hlength : handshakes.length = definition.threads.toNat)
include hlength

theorem trails_task {id : Nat} (hid : id < definition.threads.toNat) :
    Task.Trails (latest handshakes)
      (if connects handshakes id then .awaiting id (latest handshakes) else .greeted id false)
      (.ofReadings id ((lost handshakes).readings id)) := by
  simp only [readings_lost, mem_unconnected, hlength, hid, true_and]
  cases connects handshakes id with
  | true =>
    rw [if_pos rfl, awaiting_eq_delay]
    exact .delayed rfl
  | false => exact @Task.Trails.lost _ id _ _ ⟨rfl, rfl, rfl, rfl⟩ ⟨rfl, rfl, rfl, rfl⟩

theorem refusedOf_answers :
    refusedOf definition.threads.toNat (answers handshakes) = unconnected handshakes := by
  rw [unconnected, hlength]
  refine List.filter_congr fun id hmem => ?_
  have hid : id < handshakes.length := hlength ▸ List.mem_range.mp hmem
  rw [Bool.eq_iff_iff, decide_eq_true_iff, connected_mem_answers, connects,
    List.getElem?_eq_getElem hid]
  cases handshakes[id].accepted <;> simp

theorem silentOf_lost :
    silentOf definition.threads.toNat ((lost handshakes).said definition.threads.toNat) =
      unconnected handshakes := by
  rw [unconnected, hlength]
  refine List.filter_congr fun id hmem => ?_
  rw [Bool.eq_iff_iff, decide_eq_true_iff, firstByte_mem_said, readings_lost]
  simp only [mem_unconnected, hlength, List.mem_range.mp hmem, true_and]
  cases connects handshakes id <;> simp [Readings.delivers, TimedReading.brings]

omit hlength in
theorem reporters_answers {event : Nat → WorkerEvent}
    (hother : ∀ id, (event id).isConnected = false) :
    reporters definition.threads.toNat event (answers handshakes) = [] := by
  refine List.filter_eq_nil_iff.mpr fun id _ => ?_
  rw [decide_eq_true_iff]
  intro hmem
  obtain ⟨entry, -, heq⟩ := List.mem_map.mp hmem
  have hevent := hother id
  rw [← heq] at hevent
  cases hevent

/-- The workers that are not connected are counted in advance, like workers that fail at once. -/
theorem trails_coordinator (hsome : connected handshakes ≠ []) :
    Coordinator.Trails (latest handshakes)
      ⟨.ofLog definition.threads.toNat (answers handshakes), none⟩
      (carried definition (lost handshakes)).coordinator where
  transfers := by
    have hnone : refusedOf definition.threads.toNat
        ((lost handshakes).said definition.threads.toNat) = [] := by
      refine List.filter_eq_nil_iff.mpr fun id _ => ?_
      simp [Agenda.connected_mem_said]
    have habsent : absentees definition.threads.toNat (answers handshakes) =
        (unconnected handshakes).length := by
      rw [absentees, refusedOf_answers hlength, connectedOf_answers hlength,
        if_pos ⟨handshaken_answers hlength, hsome⟩]
    have hnobody : absentees definition.threads.toNat
        ((lost handshakes).said definition.threads.toNat) = 0 := by
      rw [absentees, hnone, List.length_nil, ite_self]
    simp only [carried, Tracker.ofLog]
    rw [downloadingOf, silentOf, reporters_answers fun _ => rfl, reporters_answers fun _ => rfl,
      downloadingOf_said, downloading_lost, silentOf_lost hlength, habsent, hnobody,
      List.length_nil, Nat.zero_add, Nat.add_zero]
  disconnected := by
    have hgone : goneOf definition.threads.toNat
        ((lost handshakes).said definition.threads.toNat) = [] := by
      refine List.filter_eq_nil_iff.mpr fun id hmem => ?_
      have hdelivers := List.filter_eq_nil_iff.mp
        (@downloading_lost handshakes definition.threads.toNat) id hmem
      rw [decide_eq_true_iff, Agenda.disconnected_mem_said]
      exact fun hboth => hdelivers hboth.2.1
    simp only [carried, Tracker.ofLog]
    rw [goneOf, reporters_answers fun _ => rfl, hgone]
  window := by
    have hclosed : (lost handshakes).window? definition = none :=
      window?_of_silent (downloading_lost _)
    simp only [carried, hclosed, Option.map_none]

/-- When the requests are out, the download trails one that sent them at the start, and whose
servers have reset the streams that are missing. -/
theorem trails_awaiting (hsome : connected handshakes ≠ []) :
    (awaiting definition handshakes).Trails (latest handshakes)
      (carried definition (lost handshakes)) where
  definition := rfl
  coordinator := trails_coordinator hlength hsome
  tasks := by
    refine List.forall₂_map_left_iff.mpr (List.forall₂_map_right_iff.mpr ?_)
    exact List.forall₂_same.mpr fun id hmem => trails_task hlength (List.mem_range.mp hmem)

end Awaiting

/-- A run that is cancelled before the last answer has read nothing. -/
theorem advance_cancelled {definition : DownloadDefinition} {handshakes : List Handshake}
    (hlength : handshakes.length = definition.threads.toNat)
    (hworkers : 0 < definition.threads.toNat) (timeout : Nat) (scripts : List (List Action))
    {time : Nat} (hbefore : time < latest handshakes) :
    (ofDefinition definition).advance 0 (ofRun handshakes timeout scripts (some time)) =
      ⟨greeted definition
          (((ordered handshakes).filter fun entry => entry.1.time ≤ time).map .answer),
        time, .error .cancelled⟩ := by
  obtain ⟨rest, hagenda⟩ := ofRun_cut timeout scripts hbefore
  have hascending : Ascending (fun entry : Handshake × Nat => entry.1.time) (ordered handshakes) :=
    ascending_sortBy _
  obtain ⟨before, last, hordered, hlatest⟩ := exists_last hlength hworkers
  have hlast : last ∈ (ordered handshakes).filter fun entry => time < entry.1.time := by
    rw [List.mem_filter, decide_eq_true_iff, hlatest, hordered]
    exact ⟨by simp, hbefore⟩
  obtain ⟨entry, after, hmissing⟩ := List.exists_cons_of_ne_nil (List.ne_nil_of_mem hlast)
  have hsplit := hascending.split time
  rw [hmissing] at hsplit
  obtain ⟨-, -, hpasses⟩ := passes_answers hlength hworkers hsplit
  rw [hagenda, (hpasses.advance 0 _).1]
  rfl

/-- As long as some first-byte outcome is missing, a download goes on. -/
theorem passes_of_waiting {definition : DownloadDefinition} {agenda : Agenda}
    (hreads : ∀ appointment ∈ agenda, ∃ id timed, appointment = .reads id timed)
    (hascending : Ascending Appointment.time agenda)
    (hwaiting : ¬ agenda.Answered definition.threads.toNat) :
    ∃ events, Passes (carried definition []) agenda events (carried definition agenda) := by
  -- What is missing at the end was missing all the time, so no reading has ended the run.
  induction agenda using List.reverseRecOn with
  | nil => exact ⟨[], .nil _⟩
  | append_singleton done last ih =>
    obtain ⟨id, timed, rfl⟩ := hreads last (by simp)
    have hbefore : ¬ Agenda.Answered definition.threads.toNat done := by
      intro hanswered
      refine hwaiting fun other hother => ?_
      rw [readings_append]
      exact List.append_ne_nil_of_left_ne_nil (hanswered other hother) _
    obtain ⟨events, hpasses⟩ := ih (fun appointment hmem =>
      hreads appointment (List.mem_append_left _ hmem)) (List.pairwise_append.mp hascending).1
      hbefore
    have hhappen := @happen_carried definition done id timed (verdict?_of_waiting hbefore)
      hascending.le_of_before
    rw [verdict?_of_waiting hwaiting] at hhappen
    have hexpired : (carried definition done).coordinator.expired? timed.time = none :=
      expired?_carried_eq_none.mpr fun window hwindow => by
        rw [window?_of_waiting hbefore] at hwindow
        cases hwindow
    exact ⟨_, hpasses.trans (.cons hexpired hhappen (.nil _))⟩

/-- After appointments of one instant it is that instant. -/
theorem timeAfter_append {time : Nat} (done : Agenda) {more : Agenda} (hsome : more ≠ [])
    (hall : ∀ appointment ∈ more, appointment.time = time) (now : Nat) :
    timeAfter now (done ++ more) = time := by
  rw [timeAfter, List.getLast?_append_of_ne_nil done hsome,
    List.getLast?_eq_getLast_of_ne_nil hsome]
  exact hall _ (List.getLast_mem hsome)

theorem timeAfter_overture {handshakes : List Handshake} (hsome : connected handshakes ≠ []) :
    timeAfter 0 (overture handshakes) = latest handshakes := by
  refine timeAfter_append _ (mt List.map_eq_nil_iff.mp hsome) (fun appointment hmem => ?_) 0
  obtain ⟨id, -, rfl⟩ := List.mem_map.mp hmem
  rfl

theorem timeAfter_lost (handshakes : List Handshake) : timeAfter 0 (lost handshakes) = 0 := by
  by_cases hsome : lost handshakes = []
  · rw [hsome]
    rfl
  · exact timeAfter_append [] hsome time_of_mem_lost 0

section Foretold

variable {definition : DownloadDefinition} {handshakes : List Handshake}
  (hlength : handshakes.length = definition.threads.toNat)
  (hsome : connected handshakes ≠ []) (timeout : Nat) (scripts : List (List Action))

/-- The agenda of a run that nobody cancels, counted from its requests. -/
def foretold (handshakes : List Handshake) (timeout : Nat) (scripts : List (List Action)) :
    Agenda :=
  lost handshakes ++ plan (connected handshakes) timeout (served handshakes scripts) none

theorem readings_foretold (id : Nat) :
    (foretold handshakes timeout scripts).readings id =
      if connects handshakes id then
        sortBy TimedReading.time
          (⟨timeout, .timeout⟩ :: (scripts[id]?.getD []).flatMap Action.readings)
      else if id < handshakes.length then [⟨0, .broken⟩] else [] := by
  have hnodup : (connected handshakes).Nodup := List.nodup_range.filter _
  rw [foretold, readings_append, readings_lost]
  simp only [mem_unconnected]
  cases hconnects : connects handshakes id with
  | true =>
    rw [readings_plan_sorted _ _ _ hnodup (mem_connected.mpr hconnects), getElem?_served, hconnects]
    simp
  | false =>
    have habsent : id ∉ connected handshakes := fun hmem =>
      Bool.false_ne_true (hconnects.symm.trans (mem_connected.mp hmem))
    rw [readings_plan_absent _ _ _ hnodup habsent (by rw [getElem?_served, hconnects]; rfl)]
    simp

include hlength

theorem complete_foretold :
    (foretold handshakes timeout scripts).Complete definition.threads.toNat where
  ascending := by
    refine List.pairwise_append.mpr ⟨?_, ascending_plan .., ?_⟩
    · exact List.pairwise_of_forall_mem_list fun first hfirst second _ => by
        rw [time_of_mem_lost first hfirst]
        exact Nat.zero_le _
    · intro first hfirst second _
      rw [time_of_mem_lost first hfirst]
      exact Nat.zero_le _
  reads := by
    intro appointment hmem
    rcases List.mem_append.mp hmem with hlost | hplan
    · obtain ⟨id, -, rfl⟩ := List.mem_map.mp hlost
      exact ⟨id, _, rfl⟩
    · rcases mem_plan hplan with ⟨time, hcancel, -⟩ | hreads
      · cases hcancel
      · exact hreads
  answered := by
    intro id hid
    rw [readings_foretold]
    split
    · exact List.ne_nil_of_length_pos (by simp [sortBy])
    · rw [if_pos (hlength ▸ hid)]
      simp

include hsome

/-- Where somebody is connected, all the others may fail without ending the run. -/
theorem passes_lost : ∃ events, Passes (carried definition []) (lost handshakes) events
    (carried definition (lost handshakes)) := by
  refine passes_of_waiting (fun appointment hmem => ?_) ?_ ?_
  · obtain ⟨id, -, rfl⟩ := List.mem_map.mp hmem
    exact ⟨id, _, rfl⟩
  · exact (List.pairwise_append.mp (complete_foretold hlength 0 []).ascending).1
  · rw [← hlength]
    exact not_answered_lost hsome

variable (hworkers : 0 < definition.threads.toNat) {cancelAt : Option Nat}
include hworkers

/-- A run that has gone through all that its servers do has its window. -/
theorem window_of_passes (htarget : 0 < definition.targetTime.toNat) {events : List WorkerEvent}
    {last : Download}
    (hpasses : Passes (awaiting definition handshakes)
      (delay (latest handshakes)
        (plan (connected handshakes) timeout (served handshakes scripts) cancelAt)) events last) :
    last.coordinator.window ≠ none := by
  have hcomplete := complete_foretold hlength timeout scripts
  obtain ⟨other, hother, htrails⟩ := Trails.passes (plain_plan _ _ _ _) hpasses
    (trails_awaiting hlength hsome)
  obtain ⟨before, hlost⟩ := @passes_lost definition _ hlength hsome
  have hwhole := hlost.trans hother
  rw [plan_eq_withCancel, ← withCancel_lost_append, ← foretold] at hwhole
  obtain ⟨rfl, hunderway, -⟩ := hwhole.carried rfl htarget (underway_nil hworkers)
    (hcomplete.ascending_withCancel cancelAt) (hcomplete.plain_withCancel cancelAt)
  have hanswered : Answered definition.threads.toNat
      ((foretold handshakes timeout scripts).withCancel cancelAt) := by
    intro id hid
    rw [hcomplete.readings_withCancel]
    exact hcomplete.answered id hid
  obtain ⟨window, hwindow, -⟩ := hunderway.exists_window hanswered
  have hopen : (carried definition
      ((foretold handshakes timeout scripts).withCancel cancelAt)).coordinator.window =
        some window := hwindow
  rw [htrails.coordinator.window, List.nil_append, hopen]
  exact Option.some_ne_none _

variable (hcancel : ∀ time, cancelAt = some time → latest handshakes ≤ time)
include hcancel

/-- From its requests on, a run is one that began with them, and later by as much. -/
theorem trails_advance :
    DownloadEnd.Trails (latest handshakes)
      ((ofDefinition definition).advance 0 (ofRun handshakes timeout scripts cancelAt))
      ((carried definition []).advance 0
        ((foretold handshakes timeout scripts).withCancel
          (cancelAt.map (· - latest handshakes)))) := by
  obtain ⟨events, hpasses⟩ := @passes_lost definition _ hlength hsome
  rw [ofRun_eq timeout scripts hcancel, plan_eq_withCancel, foretold, withCancel_lost_append,
    ((passes_overture hlength hworkers hsome).advance 0 _).1, (hpasses.advance 0 _).1,
    timeAfter_overture hsome, timeAfter_lost]
  have hadvance := (@trails_awaiting definition _ hlength hsome).advance (plain_plan
    (connected handshakes) timeout (served handshakes scripts)
    (cancelAt.map (· - latest handshakes))) 0
  rwa [Nat.zero_add, plan_eq_withCancel] at hadvance

end Foretold

end Download

end Throughput
