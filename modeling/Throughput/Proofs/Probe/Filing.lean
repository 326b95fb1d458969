import Mathlib.Algebra.GroupWithZero.Nat
import Mathlib.Data.List.Induction
import Throughput.Train

/-!
# Filing records

What the buckets hold after any sequence of records. The train of an index is the subsequence of the
records with that index, in the order in which they came, each with its place in the whole sequence.
Records of unknown trains take a place as well.
-/

namespace Throughput

structure StampedRecord where
  record : TrainRecord
  received : UInt64
  deriving DecidableEq, Repr

/-- The packet that is filed for a record at a place in the arrival order. -/
def StampedRecord.arrival (stamped : StampedRecord) (place : Nat) : Arrival :=
  ⟨stamped.record.sequence, stamped.record.sent, stamped.received, UInt32.ofNat place⟩

namespace Buckets

def insertAll (buckets : Buckets) (records : List StampedRecord) : Buckets :=
  records.foldl (fun buckets stamped => (buckets.insert stamped.record stamped.received).1) buckets

def trainOf (records : List StampedRecord) (index : Nat) : List Arrival :=
  (records.zipIdx.filter fun entry => entry.1.record.iteration.toNat = index).map
    fun entry => entry.1.arrival entry.2

@[simp]
theorem trainOf_nil (index : Nat) : trainOf [] index = [] := rfl

theorem trainOf_concat (records : List StampedRecord) (stamped : StampedRecord) (index : Nat) :
    trainOf (records ++ [stamped]) index =
      trainOf records index ++
        if stamped.record.iteration.toNat = index then [stamped.arrival records.length]
        else [] := by
  unfold trainOf
  rw [List.zipIdx_append, List.filter_append, List.map_append]
  by_cases hindex : stamped.record.iteration.toNat = index <;> simp [hindex]

theorem insert_trainOf (count : Nat) (records : List StampedRecord) (stamped : StampedRecord) :
    (Buckets.insert ⟨(List.range count).map (trainOf records), UInt32.ofNat records.length⟩
        stamped.record stamped.received).1 =
      ⟨(List.range count).map (trainOf (records ++ [stamped])),
        UInt32.ofNat (records ++ [stamped]).length⟩ := by
  have hplace : UInt32.ofNat records.length + 1 = UInt32.ofNat (records ++ [stamped]).length := by
    rw [List.length_append, List.length_singleton, UInt32.ofNat_add]
    rfl
  simp only [insert, List.length_map, List.length_range]
  by_cases hindex : stamped.record.iteration.toNat < count
  · rw [if_pos hindex, hplace, Buckets.mk.injEq]
    refine ⟨?_, rfl⟩
    apply List.ext_getElem
    · simp [append]
    · intro i _ _
      simp only [append, List.getElem_modify, List.getElem_map, List.getElem_range,
        trainOf_concat, StampedRecord.arrival]
      split <;> simp
  · rw [if_neg hindex, hplace, Buckets.mk.injEq]
    refine ⟨?_, rfl⟩
    apply List.map_congr_left
    intro i hi
    have hne : stamped.record.iteration.toNat ≠ i := by
      have := List.mem_range.mp hi
      omega
    rw [trainOf_concat, if_neg hne, List.append_nil]

/-- Every sequence of records is split into its trains, and none is lost from the count. -/
theorem insertAll_ofIterations (iterations : UInt16) (records : List StampedRecord) :
    (ofIterations iterations).insertAll records =
      ⟨(List.range iterations.toNat).map (trainOf records), UInt32.ofNat records.length⟩ := by
  induction records using List.reverseRecOn with
  | nil =>
    have hempty : (List.range iterations.toNat).map (trainOf []) =
        List.replicate iterations.toNat [] := by
      rw [List.eq_replicate_iff]
      simp
    rw [hempty]
    rfl
  | append_singleton records stamped ih =>
    rw [insertAll, List.foldl_append, List.foldl_cons, List.foldl_nil]
    change ((insertAll (ofIterations iterations) records).insert _ _).1 = _
    rw [ih]
    exact insert_trainOf iterations.toNat records stamped

end Buckets

end Throughput
