import Throughput.Proofs.Download.Answer

/-!
# Renumbered workers

Two agendas on which the same is read under other numbers. Workers may be missing from the second
one if they fail, and do so before the last first-byte outcome of the others. The agendas then have
the same end, the same traffic, and workers that contribute the same.
-/

namespace Throughput

open Agenda

namespace Agenda

/-- An agenda for `few` workers on which each of them reads what the worker does on the agenda for
`many` that bears the old number. -/
structure Mirrors (many : Nat) (agenda : Agenda) (few : Nat) (mirror : Agenda) (old : Nat → Nat)
    (absent : List Nat) : Prop where
  workers : (List.range many).Perm (absent ++ (List.range few).map old)
  readings : ∀ id < few, mirror.readings id = agenda.readings (old id)
  silent : ∀ id ∈ absent, (agenda.readings id).delivers = false
  early : ∀ id ∈ absent, ∃ other < few,
    (agenda.readings id).firstTime ≤ (agenda.readings (old other)).firstTime

namespace Mirrors

variable {many few : Nat} {agenda mirror : Agenda} {old : Nat → Nat} {absent : List Nat}
  (h : Mirrors many agenda few mirror old absent)
include h

theorem mem_cases {id : Nat} (hid : id < many) : id ∈ absent ∨ ∃ other < few, old other = id := by
  have hmem := h.workers.mem_iff.mp (List.mem_range.mpr hid)
  rcases List.mem_append.mp hmem with habsent | hpresent
  · exact Or.inl habsent
  · obtain ⟨other, hother, hold⟩ := List.mem_map.mp hpresent
    exact Or.inr ⟨other, List.mem_range.mp hother, hold⟩

theorem old_lt {id : Nat} (hid : id < few) : old id < many := by
  have hmem : old id ∈ absent ++ (List.range few).map old :=
    List.mem_append_right _ (List.mem_map_of_mem (List.mem_range.mpr hid))
  exact List.mem_range.mp (h.workers.mem_iff.mpr hmem)

/-- The same workers download, in another order. -/
theorem downloading_perm :
    (agenda.downloading many).Perm ((mirror.downloading few).map old) := by
  have hmirror : mirror.downloading few =
      (List.range few).filter fun id => (agenda.readings (old id)).delivers :=
    List.filter_congr fun id hmem => by rw [h.readings id (List.mem_range.mp hmem)]
  have hsilent : absent.filter (fun id => (agenda.readings id).delivers) = [] := by
    rw [List.filter_eq_nil_iff]
    intro id hmem
    rw [h.silent id hmem]
    exact Bool.false_ne_true
  have hkept := h.workers.filter fun id => (agenda.readings id).delivers
  rw [List.filter_append, hsilent, List.nil_append, List.filter_map] at hkept
  rw [hmirror]
  exact hkept

/-- A latest time is the same if none of those who are missing is later than all others. -/
theorem sup_eq {times mirrored : Nat → Nat} (hsame : ∀ id < few, mirrored id = times (old id))
    (hearly : ∀ id ∈ absent, ∃ other < few, times id ≤ times (old other)) :
    (Finset.range few).sup mirrored = (Finset.range many).sup times := by
  apply Nat.le_antisymm
  · refine Finset.sup_le fun id hmem => ?_
    have hid := Finset.mem_range.mp hmem
    rw [hsame id hid]
    exact Finset.le_sup (f := times) (Finset.mem_range.mpr (h.old_lt hid))
  · refine Finset.sup_le fun id hmem => ?_
    have hpresent : ∃ other < few, times id ≤ times (old other) := by
      rcases h.mem_cases (Finset.mem_range.mp hmem) with habsent | ⟨other, hother, rfl⟩
      · exact hearly id habsent
      · exact ⟨other, hother, Nat.le_refl _⟩
    obtain ⟨other, hother, hle⟩ := hpresent
    calc
      times id ≤ times (old other) := hle
      _ = mirrored other := (hsame other hother).symm
      _ ≤ (Finset.range few).sup mirrored :=
        Finset.le_sup (f := mirrored) (Finset.mem_range.mpr hother)

theorem settledAt_eq : mirror.settledAt few = agenda.settledAt many :=
  h.sup_eq (fun id hid => by rw [h.readings id hid]) h.early

theorem finishedAt_eq : mirror.finishedAt few = agenda.finishedAt many := by
  rw [finishedAt, finishedAt, h.settledAt_eq]
  congr 1
  refine h.sup_eq (fun id hid => by rw [h.readings id hid]) fun id hmem => ?_
  obtain ⟨other, hother, -⟩ := h.early id hmem
  refine ⟨other, hother, ?_⟩
  rw [h.silent id hmem, if_neg Bool.false_ne_true]
  exact Nat.zero_le _

theorem map_readings_old :
    ((mirror.downloading few).map old).map (fun id => agenda.readings id) =
      mirror.downloads few := by
  rw [List.map_map]
  refine List.map_congr_left fun id hmem => ?_
  exact (h.readings id (List.mem_range.mp (List.mem_of_mem_filter hmem))).symm

/-- What the downloading workers read is the same, in another order. -/
theorem downloads_perm : (agenda.downloads many).Perm (mirror.downloads few) := by
  rw [← h.map_readings_old]
  exact h.downloading_perm.map _

theorem downloads_eq (hordered : agenda.downloading many = (mirror.downloading few).map old) :
    agenda.downloads many = mirror.downloads few := by
  rw [downloads, hordered, h.map_readings_old]

theorem downloading_eq_nil_iff : mirror.downloading few = [] ↔ agenda.downloading many = [] := by
  have hlength := h.downloading_perm.length_eq
  rw [List.length_map] at hlength
  rw [← List.length_eq_zero_iff, ← List.length_eq_zero_iff, hlength]

theorem forall_downloading (holds : Readings → Prop) :
    (∀ id ∈ mirror.downloading few, holds (mirror.readings id)) ↔
      ∀ id ∈ agenda.downloading many, holds (agenda.readings id) := by
  have hmem : (∀ readings ∈ mirror.downloads few, holds readings) ↔
      ∀ readings ∈ agenda.downloads many, holds readings :=
    forall_congr' fun readings => by rw [h.downloads_perm.mem_iff]
  simpa only [downloads, List.forall_mem_map] using hmem

end Mirrors

end Agenda

/-- The definition with another number of workers. -/
def DownloadDefinition.withThreads (definition : DownloadDefinition) (threads : UInt32) :
    DownloadDefinition :=
  { definition with threads }

/-- Any number of workers is as good as any other that does not exceed it. -/
theorem DownloadDefinition.validate_withThreads {definition : DownloadDefinition} {target : Target}
    (hvalid : definition.validate = .ok target) {threads : UInt32} (hpos : 0 < threads.toNat)
    (hle : threads.toNat ≤ definition.threads.toNat) :
    (definition.withThreads threads).validate = .ok target := by
  have hrange : ∀ {count : UInt32}, 0 < count.toNat → count.toNat ≤ 16 →
      ¬ (count < 1 ∨ 16 < count) := by
    intro count hpos hle
    simp only [UInt32.lt_iff_toNat_lt, UInt32.reduceToNat]
    omega
  have hbounded := bounded_of_validate hvalid
  rw [validate, if_neg (hrange hbounded.threads_pos hbounded.threads_le)] at hvalid
  rw [validate, withThreads, if_neg (hrange hpos (Nat.le_trans hle hbounded.threads_le))]
  exact hvalid

namespace Agenda.Mirrors

variable {definition : DownloadDefinition} {threads : UInt32} {agenda mirror : Agenda}
  {old : Nat → Nat} {absent : List Nat}
  (h : Mirrors definition.threads.toNat agenda threads.toNat mirror old absent)
include h

theorem window_eq :
    mirror.window (definition.withThreads threads) = agenda.window definition :=
  congrArg (Window.ofDefinition definition) h.settledAt_eq

theorem endOf_eq :
    mirror.endOf (definition.withThreads threads) = agenda.endOf definition := by
  have hcloses := h.forall_downloading fun readings => readings.closes = true
  have hstop : (Window.ofDefinition (definition.withThreads threads)
      (agenda.settledAt definition.threads.toNat)).stop =
      (Window.ofDefinition definition (agenda.settledAt definition.threads.toNat)).stop := rfl
  have hworkers : (definition.withThreads threads).threads = threads := rfl
  simp only [endOf, hworkers, h.settledAt_eq, h.finishedAt_eq, h.downloading_eq_nil_iff, hcloses,
    hstop]

/-- The mirror measures the same workers, in its own order. -/
theorem outcome_eq :
    mirror.outcome (definition.withThreads threads) =
      definition.conclude (agenda.window definition) (mirror.downloads threads.toNat) := by
  rw [outcome, h.window_eq]
  rfl

/-- A worker that is missing has read nothing. -/
theorem trafficUntil_eq (hascending : Ascending Appointment.time agenda) (elapsed : Nat) :
    mirror.trafficUntil (definition.withThreads threads) elapsed =
      agenda.trafficUntil definition elapsed := by
  have hnothing : (absent.map fun id =>
      (agenda.readings id).trafficUntil (agenda.window definition) elapsed).sum = 0 := by
    refine List.sum_eq_zero fun bytes hmem => ?_
    obtain ⟨id, habsent, rfl⟩ := List.mem_map.mp hmem
    rw [Readings.trafficUntil, Readings.traffic_reached Window.reaches_down
      (ascending_readings hascending id), h.silent id habsent, if_neg Bool.false_ne_true]
  have hsum := (h.workers.map fun id =>
    (agenda.readings id).trafficUntil (agenda.window definition) elapsed).sum_nat
  rw [List.map_append, List.sum_append, hnothing, Nat.zero_add, List.map_map] at hsum
  rw [trafficUntil, trafficUntil, hsum, h.window_eq]
  congr 1
  refine List.map_congr_left fun id hmem => ?_
  rw [h.readings id (List.mem_range.mp hmem), Function.comp_apply]

theorem answer_eq (hascending : Ascending Appointment.time agenda)
    (hordered : agenda.downloading definition.threads.toNat =
      (mirror.downloading threads.toNat).map old) (cancelAt : Option Nat) :
    mirror.answer (definition.withThreads threads) cancelAt =
      agenda.answer definition cancelAt := by
  have houtcome : mirror.outcome (definition.withThreads threads) = agenda.outcome definition := by
    rw [h.outcome_eq, outcome, h.downloads_eq hordered]
  simp only [answer, h.endOf_eq, houtcome, h.trafficUntil_eq hascending]

end Agenda.Mirrors

/-- A worker reads the same wherever it has the same script and the same time for its first byte. -/
theorem Surroundings.readings_plan_congr {left right : Surroundings} {few many id old : Nat}
    (hid : id < few) (hold : old < many)
    (htimeout : left.firstByteTimeout = right.firstByteTimeout)
    (hscript : left.scripts[id]?.getD [] = right.scripts[old]?.getD []) :
    (left.plan few).readings id = (right.plan many).readings old := by
  rw [plan, plan, readings_plan_sorted _ _ _ List.nodup_range (List.mem_range.mpr hid),
    readings_plan_sorted _ _ _ List.nodup_range (List.mem_range.mpr hold),
    List.getElem?_take_of_lt hid, List.getElem?_take_of_lt hold, htimeout, hscript]

end Throughput
