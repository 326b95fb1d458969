import Mathlib.Data.List.Basic
import Mathlib.Data.List.Perm.Basic
import Throughput.Proofs.Dialogue
import Throughput.Proofs.Probe.Filing

/-!
# Bookkeeping of buckets

How each of a sequence of records is answered, and what the buckets hold after all of them. Every
record takes the next stamp. Those of known trains are filed, each in one bucket and none twice, and
the others are turned away, so that the two together make up the count.
-/

namespace Throughput

open Dialogue

namespace Buckets

/-- One answer for each record of a sequence: the stamp that it is filed with, or why it is not. -/
def verdicts (iterations : UInt16) (records : List StampedRecord) :
    List (Except OutOfRange UInt32) :=
  answers (fun buckets stamped => buckets.insert stamped.record stamped.received)
    (ofIterations iterations) records

def isRejected : Except OutOfRange UInt32 → Bool
  | .error _ => true
  | .ok _ => false

/-- The packets of all known trains, in the order in which they came. -/
def arrivalsOf (iterations : UInt16) (records : List StampedRecord) : List Arrival :=
  (records.zipIdx.filter fun entry => entry.1.record.iteration < iterations).map
    fun entry => entry.1.arrival entry.2

/-! ### Splitting by a key -/

/-- The parts of a list, one for each key below a bound, hold the elements with such a key, each
once. -/
theorem flatMap_filter_perm {α : Type} (key : α → Nat) (elements : List α) (bound : Nat) :
    ((List.range bound).flatMap fun index =>
        elements.filter fun element => key element = index).Perm
      (elements.filter fun element => key element < bound) := by
  induction bound with
  | zero => simp
  | succ bound ih =>
    have hbelow : (elements.filter fun element => key element < bound + 1).filter
        (fun element => key element < bound) =
          elements.filter fun element => key element < bound := by
      rw [List.filter_filter]
      refine List.filter_congr fun element _ => ?_
      simp only [← Bool.decide_and, decide_eq_decide]
      omega
    have hlast : (elements.filter fun element => key element < bound + 1).filter
        (fun element => !decide (key element < bound)) =
          elements.filter fun element => key element = bound := by
      rw [List.filter_filter]
      refine List.filter_congr fun element _ => ?_
      simp only [← decide_not, ← Bool.decide_and, decide_eq_decide]
      omega
    have hsplit := List.filter_append_perm (fun element => decide (key element < bound))
      (elements.filter fun element => key element < bound + 1)
    rw [hbelow, hlast] at hsplit
    rw [List.range_succ, List.flatMap_append, List.flatMap_singleton]
    exact (ih.append_right _).trans hsplit

theorem flatMap_trainOf_perm (iterations : UInt16) (records : List StampedRecord) :
    ((List.range iterations.toNat).flatMap (trainOf records)).Perm
      (arrivalsOf iterations records) := by
  have hparts := (flatMap_filter_perm (fun entry : StampedRecord × Nat =>
    entry.1.record.iteration.toNat) records.zipIdx iterations.toNat).map
      fun entry => entry.1.arrival entry.2
  rw [List.map_flatMap] at hparts
  exact hparts

/-! ### Answers -/

/-- The answer to a record at a place of a sequence. -/
def verdict (iterations : UInt16) (entry : StampedRecord × Nat) : Except OutOfRange UInt32 :=
  if entry.1.record.iteration < iterations then .ok (UInt32.ofNat entry.2)
  else .error ⟨entry.1.record.iteration, iterations⟩

section Verdicts

variable (iterations : UInt16) (records : List StampedRecord)

theorem insert_insertAll_answer (stamped : StampedRecord) :
    (((ofIterations iterations).insertAll records).insert stamped.record stamped.received).2 =
      verdict iterations (stamped, records.length) := by
  rw [insertAll_ofIterations, verdict, insert]
  simp only [List.length_map, List.length_range, UInt16.lt_iff_toNat_lt, UInt16.ofNat_toNat]
  split <;> rfl

theorem verdicts_eq : verdicts iterations records = records.zipIdx.map (verdict iterations) := by
  apply List.ext_getElem?
  intro place
  rw [verdicts, getElem?_answers, List.getElem?_map, List.getElem?_zipIdx, Option.map_map]
  cases hplace : records[place]? with
  | none => rfl
  | some stamped =>
    obtain ⟨hlt, -⟩ := List.getElem?_eq_some_iff.mp hplace
    have hlength : (records.take place).length = place := by
      rw [List.length_take, Nat.min_eq_left (Nat.le_of_lt hlt)]
    have hanswer := insert_insertAll_answer iterations (records.take place) stamped
    rw [hlength] at hanswer
    rw [Option.map_some, Option.map_some, Function.comp_apply, Nat.zero_add, ← hanswer]
    rfl

theorem countP_isRejected :
    (arrivalsOf iterations records).length + (verdicts iterations records).countP isRejected =
      records.length := by
  have hrejected : (verdicts iterations records).countP isRejected =
      records.zipIdx.countP fun entry => !decide (entry.1.record.iteration < iterations) := by
    rw [verdicts_eq, List.countP_map]
    apply List.countP_congr
    intro entry _
    rw [Function.comp_apply, verdict]
    split <;> simp_all [isRejected]
  have hall := @List.length_eq_countP_add_countP _ (fun entry : StampedRecord × Nat =>
    decide (entry.1.record.iteration < iterations)) records.zipIdx
  simp only [decide_eq_true_eq, decide_not, List.length_zipIdx] at hall
  rw [hrejected, arrivalsOf, List.length_map, ← List.countP_eq_length_filter]
  exact hall.symm

end Verdicts

/-! ### Stamps -/

section Stamps

variable {records : List StampedRecord} (hlength : records.length < 2 ^ 32)
include hlength

theorem toNat_order_arrival {entry : StampedRecord × Nat} (hmem : entry ∈ records.zipIdx) :
    (entry.1.arrival entry.2).order.toNat = entry.2 := by
  obtain ⟨-, hbound, -⟩ := List.mem_zipIdx hmem
  apply UInt32.toNat_ofNat_of_lt'
  change entry.2 < 2 ^ 32
  omega

theorem pairwise_order (isIt : StampedRecord × Nat → Bool) :
    ((records.zipIdx.filter isIt).map fun entry => entry.1.arrival entry.2).Pairwise
      fun left right => left.order < right.order := by
  have hplaces : records.zipIdx.Pairwise fun left right => left.2 < right.2 := by
    rw [← List.pairwise_map, List.zipIdx_map_snd]
    exact List.pairwise_lt_range'
  rw [List.pairwise_map]
  refine (hplaces.filter isIt).imp_of_mem fun {left right} hleft hright hlt => ?_
  rw [UInt32.lt_iff_toNat_lt, toNat_order_arrival hlength (List.mem_filter.mp hleft).1,
    toNat_order_arrival hlength (List.mem_filter.mp hright).1]
  exact hlt

theorem order_trainOf (index : Nat) :
    (trainOf records index).map (fun arrival => arrival.order.toNat) =
      (records.zipIdx.filter fun entry => entry.1.record.iteration.toNat = index).map Prod.snd := by
  rw [trainOf, List.map_map]
  apply List.map_congr_left
  intro entry hmem
  exact toNat_order_arrival hlength (List.mem_filter.mp hmem).1

theorem nodup_order_arrivalsOf (iterations : UInt16) :
    ((arrivalsOf iterations records).map Arrival.order).Nodup := by
  rw [List.Nodup, List.pairwise_map]
  exact (pairwise_order hlength _).imp UInt32.ne_of_lt

end Stamps

/-! ### The books -/

/-- What is on the books after a sequence of records. -/
structure Books (iterations : UInt16) (records : List StampedRecord) : Prop where
  /-- Every record takes a stamp, also one that is then turned away. -/
  stamped (place : Nat) : place ≤ records.length →
    ((ofIterations iterations).insertAll (records.take place)).received.toNat = place
  answered (place : Nat) (stamped : StampedRecord) : records[place]? = some stamped →
    ∃ stamp : UInt32, stamp.toNat = place ∧
      (verdicts iterations records)[place]? =
        some (if stamped.record.iteration < iterations then .ok stamp
          else .error ⟨stamped.record.iteration, iterations⟩)
  received : ((ofIterations iterations).insertAll records).received.toNat = records.length
  trains : ((ofIterations iterations).insertAll records).trains =
    (List.range iterations.toNat).map (trainOf records)
  /-- The stamps of a train are the places of its records. -/
  places (index : Nat) : (trainOf records index).map (fun arrival => arrival.order.toNat) =
    (records.zipIdx.filter fun entry => entry.1.record.iteration.toNat = index).map Prod.snd
  ascending : ∀ train ∈ ((ofIterations iterations).insertAll records).trains,
    train.Pairwise fun left right => left.order < right.order
  unique : (((ofIterations iterations).insertAll records).trains.flatten.map Arrival.order).Nodup
  held : ((ofIterations iterations).insertAll records).trains.flatten.Perm
    (arrivalsOf iterations records)
  total : (((ofIterations iterations).insertAll records).trains.map List.length).sum +
      (verdicts iterations records).countP isRejected =
    ((ofIterations iterations).insertAll records).received.toNat

theorem received_insertAll (iterations : UInt16) {records : List StampedRecord}
    (hlength : records.length < 2 ^ 32) :
    ((ofIterations iterations).insertAll records).received.toNat = records.length := by
  rw [insertAll_ofIterations]
  exact UInt32.toNat_ofNat_of_lt' hlength

theorem flatten_trains_perm (iterations : UInt16) (records : List StampedRecord) :
    ((ofIterations iterations).insertAll records).trains.flatten.Perm
      (arrivalsOf iterations records) := by
  rw [insertAll_ofIterations, ← List.flatMap_def]
  exact flatMap_trainOf_perm iterations records

/-- No record is lost or filed twice, whatever the order in which those of the trains come: fewer
records than there are stamps are all on the books. -/
theorem insertAll_books (iterations : UInt16) {records : List StampedRecord}
    (hlength : records.length < 2 ^ 32) : Books iterations records := by
  have hreceived := received_insertAll iterations hlength
  have htrains : ((ofIterations iterations).insertAll records).trains =
      (List.range iterations.toNat).map (trainOf records) := by
    rw [insertAll_ofIterations]
  have hheld := flatten_trains_perm iterations records
  refine {
    stamped := fun place hplace => ?_
    answered := fun place stamped hstamped => ?_
    received := hreceived
    trains := htrains
    places := order_trainOf hlength
    ascending := ?_
    unique := (hheld.map Arrival.order).nodup_iff.mpr (nodup_order_arrivalsOf hlength iterations)
    held := hheld
    total := ?_ }
  · have htake : (records.take place).length = place := by
      rw [List.length_take, Nat.min_eq_left hplace]
    rw [received_insertAll iterations (by omega), htake]
  · obtain ⟨hplace, -⟩ := List.getElem?_eq_some_iff.mp hstamped
    refine ⟨UInt32.ofNat place, UInt32.toNat_ofNat_of_lt' (Nat.lt_trans hplace hlength), ?_⟩
    rw [verdicts_eq, List.getElem?_map, List.getElem?_zipIdx, hstamped, Option.map_some,
      Option.map_some, Nat.zero_add]
    rfl
  · rw [htrains, List.forall_mem_map]
    exact fun index _ => pairwise_order hlength _
  · rw [← List.length_flatten, hheld.length_eq, countP_isRejected, hreceived]

/-- Two trains in between each other, and a record of a third one. -/
theorem insertAll_books_stranger :
    let records : List StampedRecord := [⟨⟨0, 1, 0⟩, 5⟩, ⟨⟨3, 0, 0⟩, 6⟩, ⟨⟨1, 2, 0⟩, 7⟩,
      ⟨⟨2, 1, 1⟩, 8⟩]
    records.length < 2 ^ 32 ∧
      verdicts 2 records = [.ok 0, .ok 1, .error ⟨2, 2⟩, .ok 3] ∧
      ((ofIterations 2).insertAll records).trains =
        [[⟨0, 3, 6, 1⟩], [⟨0, 0, 5, 0⟩, ⟨1, 2, 8, 3⟩]] ∧ Books 2 records := by
  intro records
  have hlength : records.length < 2 ^ 32 := by decide
  exact ⟨hlength, rfl, by decide, insertAll_books 2 hlength⟩

end Buckets

end Throughput
