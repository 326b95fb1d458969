import Mathlib.Data.List.Basic
import Throughput.Proofs.Probe.Filing

/-!
# What the rates of a train depend on

The two rates of a train come from the number of its packets and from the stamps of the first and
the last one. Neither the place of a packet among all arrivals nor the order of the sequence numbers
has a part in them. So trains that come in between each other are rated as if each came alone.
Checked arithmetic gives the same rates, or none at all where the bytes of a rated train do not fit
into a word.
-/

namespace Throughput

/-- When a packet was sent and when it was received. -/
def Arrival.stamps (arrival : Arrival) : UInt64 × UInt64 :=
  (arrival.sent, arrival.received)

namespace TrainRate

/-- The rates of `count` packets of one size between two pairs of stamps. -/
def between (packetSize count : Nat) (first last : UInt64 × UInt64) : Option (Float × Float) :=
  let sending : Int := last.1.toNat - first.1.toNat
  let receiving : Int := last.2.toNat - first.2.toNat
  if sending ≤ 0 ∨ receiving ≤ 0 then none
  else
    let bytes := Float.ofNat (volume packetSize count).toNat
    some (kilobits bytes (Float.ofInt sending), kilobits bytes (Float.ofInt receiving))

/-- The rates of a train whose packets have these stamps. -/
def ofStamps (packetSize : Nat) (stamps : List (UInt64 × UInt64)) : Option (Float × Float) :=
  match stamps.head?, stamps.getLast? with
  | some first, some last => between packetSize stamps.length first last
  | _, _ => none

theorem rates?_ofTrain (train : List Arrival) (packetSize : Nat) :
    (ofTrain train packetSize).rates? = ofStamps packetSize (train.map Arrival.stamps) := by
  cases train with
  | nil => rfl
  | cons first rest =>
    have hlast : ((first :: rest).map Arrival.stamps).getLast? =
        some (rest.getLastD first).stamps := by
      rw [List.getLast?_map, List.getLast?_cons, List.getLastD_eq_getLast?, Option.map_some]
    rw [ofStamps, hlast]
    simp only [List.map_cons, List.head?_cons, List.length_cons, List.length_map]
    simp only [ofTrain, between, Arrival.stamps, List.length_cons, apply_ite rates?]
    rfl

/-- Checked arithmetic only differs where there is a rate, for a train that is too large. -/
theorem checked?_eq (train : List Arrival) (packetSize : Nat) :
    checked? train packetSize =
      if (ofTrain train packetSize).rates?.isSome → Fits packetSize train.length then
        some (ofTrain train packetSize)
      else none := by
  rw [checked?]
  cases ofTrain train packetSize <;> simp [rates?]

theorem rates?_ofTrain_of_stamps {left right : List Arrival} (packetSize : Nat)
    (h : left.map Arrival.stamps = right.map Arrival.stamps) :
    (ofTrain left packetSize).rates? = (ofTrain right packetSize).rates? := by
  rw [rates?_ofTrain, rates?_ofTrain, h]

end TrainRate

/-! ### Trains in a sequence of records -/

namespace Buckets

/-- The records of one train, in the order in which they came. -/
def recordsOf (records : List StampedRecord) (index : Nat) : List StampedRecord :=
  records.filter fun stamped => stamped.record.iteration.toNat = index

/-- The packets of a train show its records, apart from their places among all arrivals. -/
theorem map_trainOf {α : Type} {f : Arrival → α} {g : StampedRecord → α}
    (hplace : ∀ stamped place, f (StampedRecord.arrival stamped place) = g stamped)
    (records : List StampedRecord) (index : Nat) :
    (trainOf records index).map f = (recordsOf records index).map g := by
  have hfilter : recordsOf records index =
      (records.zipIdx.filter fun entry => entry.1.record.iteration.toNat = index).map Prod.fst := by
    rw [recordsOf]
    conv_lhs => rw [← List.zipIdx_map_fst 0 records, List.filter_map]
    rfl
  rw [hfilter, trainOf, List.map_map, List.map_map]
  exact List.map_congr_left fun entry _ => hplace entry.1 entry.2

theorem length_trainOf (records : List StampedRecord) (index : Nat) :
    (trainOf records index).length = (recordsOf records index).length := by
  have hsame := @map_trainOf _ (fun _ => ()) (fun _ => ()) (fun _ _ => rfl) records index
  simpa using congrArg List.length hsame

theorem stamps_trainOf (records : List StampedRecord) (index : Nat) :
    (trainOf records index).map Arrival.stamps =
      (records.filter fun stamped => stamped.record.iteration.toNat = index).map
        fun stamped => (stamped.record.sent, stamped.received) :=
  map_trainOf (fun _ _ => rfl) records index

end Buckets

namespace StampedRecord

/-- When a record was sent, by the clock of the sender. -/
def sent (stamped : StampedRecord) : UInt64 :=
  stamped.record.sent

/-- How long a train takes on a clock, from its first record to its last one. -/
def span (clock : StampedRecord → UInt64) (train : List StampedRecord) : Int :=
  match train.head?, train.getLast? with
  | some first, some last => (clock last).toNat - (clock first).toNat
  | _, _ => 0

/-- The rate of a train on a clock, in kbit/s. -/
def rateOn (clock : StampedRecord → UInt64) (packetSize : Nat) (train : List StampedRecord) :
    Float :=
  TrainRate.kilobits (Float.ofNat (TrainRate.volume packetSize train.length).toNat)
    (Float.ofInt (span clock train))

/-- A train that takes some time on both clocks. -/
def HasRate (train : List StampedRecord) : Prop :=
  train ≠ [] ∧ 0 < span sent train ∧ 0 < span received train

instance (train : List StampedRecord) : Decidable (HasRate train) :=
  inferInstanceAs (Decidable (_ ∧ _ ∧ _))

theorem span_congr {clock : StampedRecord → UInt64} {left right : List StampedRecord}
    (hfirst : left.head? = right.head?) (hlast : left.getLast? = right.getLast?) :
    span clock left = span clock right := by
  rw [span, span, hfirst, hlast]

theorem ofStamps_map (packetSize : Nat) (train : List StampedRecord) :
    TrainRate.ofStamps packetSize (train.map fun stamped => (stamped.sent, stamped.received)) =
      if HasRate train then some (rateOn sent packetSize train, rateOn received packetSize train)
      else none := by
  cases train with
  | nil => rfl
  | cons first rest =>
    have hlast := List.getLast?_eq_some_getLast (List.cons_ne_nil first rest)
    generalize (first :: rest).getLast _ = last at hlast
    have hspan (clock : StampedRecord → UInt64) :
        span clock (first :: rest) = ((clock last).toNat : Int) - (clock first).toNat := by
      rw [span, hlast, List.head?_cons]
    have hrate : HasRate (first :: rest) ↔
        ¬ (span sent (first :: rest) ≤ 0 ∨ span received (first :: rest) ≤ 0) := by
      rw [HasRate, and_iff_right (List.cons_ne_nil first rest), not_or, Int.not_le, Int.not_le]
    rw [TrainRate.ofStamps, List.getLast?_map, hlast]
    simp only [List.map_cons, List.head?_cons, Option.map_some, TrainRate.between, ← hspan, hrate,
      rateOn, List.length_cons, List.length_map, ite_not]

theorem rates?_trainOf (packetSize : Nat) (records : List StampedRecord) (index : Nat) :
    (TrainRate.ofTrain (Buckets.trainOf records index) packetSize).rates? =
      if HasRate (Buckets.recordsOf records index) then
        some (rateOn sent packetSize (Buckets.recordsOf records index),
          rateOn received packetSize (Buckets.recordsOf records index))
      else none := by
  have hstamps := @Buckets.map_trainOf _ Arrival.stamps
    (fun stamped => (stamped.sent, stamped.received)) (fun _ _ => rfl) records index
  rw [TrainRate.rates?_ofTrain, hstamps, ofStamps_map]

theorem checked?_trainOf (packetSize : Nat) (records : List StampedRecord) (index : Nat) :
    TrainRate.checked? (Buckets.trainOf records index) packetSize =
      if HasRate (Buckets.recordsOf records index) →
          TrainRate.Fits packetSize (Buckets.recordsOf records index).length then
        some (TrainRate.ofTrain (Buckets.trainOf records index) packetSize)
      else none := by
  rw [TrainRate.checked?_eq, rates?_trainOf, Buckets.length_trainOf]
  simp only [Option.isSome_ite]

end StampedRecord

/-- A pass that may give up on an element gives up unless it goes through with all of them. -/
theorem mapM_ite_some {α β : Type} (holds : α → Prop) [DecidablePred holds] (f : α → β)
    (list : List α) :
    (list.mapM fun a => if holds a then some (f a) else none) =
      if ∀ a ∈ list, holds a then some (list.map f) else none := by
  induction list with
  | nil => rfl
  | cons first rest ih =>
    rw [List.mapM_cons, ih]
    by_cases hfirst : holds first
    · by_cases hrest : ∀ a ∈ rest, holds a
      · rw [if_pos hfirst, if_pos hrest, if_pos (List.forall_mem_cons.mpr ⟨hfirst, hrest⟩)]
        rfl
      · rw [if_pos hfirst, if_neg hrest, if_neg fun h => hrest (List.forall_mem_cons.mp h).2]
        rfl
    · rw [if_neg hfirst, if_neg fun h => hfirst (List.forall_mem_cons.mp h).1]
      rfl

namespace Buckets

open StampedRecord

/-- Checked arithmetic gives up if the bytes of some train that has a rate do not fit. -/
theorem checkedRates?_insertAll (iterations : UInt16) (packetSize : Nat)
    (records : List StampedRecord) :
    ((ofIterations iterations).insertAll records).checkedRates? packetSize =
      if ∀ index ∈ List.range iterations.toNat, HasRate (recordsOf records index) →
          TrainRate.Fits packetSize (recordsOf records index).length then
        some (((ofIterations iterations).insertAll records).rates packetSize)
      else none := by
  rw [insertAll_ofIterations, checkedRates?, Buckets.rates, List.mapM_map, List.map_map]
  simp only [Function.comp_def, checked?_trainOf]
  exact mapM_ite_some _ _ _

end Buckets

/-! ### Trains that come in between each other -/

/-- Two sequences of records that agree, in every known train, in the number of the records and in
the first and the last one. -/
structure SameEnds (iterations : UInt16) (left right : List StampedRecord) : Prop where
  length : ∀ index < iterations.toNat,
    (Buckets.recordsOf left index).length = (Buckets.recordsOf right index).length
  first : ∀ index < iterations.toNat,
    (Buckets.recordsOf left index).head? = (Buckets.recordsOf right index).head?
  last : ∀ index < iterations.toNat,
    (Buckets.recordsOf left index).getLast? = (Buckets.recordsOf right index).getLast?

namespace TrainsResult

open StampedRecord Buckets

variable (iterations : UInt16) (packetSize : Nat) (records : List StampedRecord)

/-- The rates of the trains that are filed from a sequence of records. -/
def ofRecords : TrainsResult :=
  .ofRates (((ofIterations iterations).insertAll records).rates packetSize)

/-- The rates by checked arithmetic, if it does not give up on any of the trains. -/
def checkedRecords? : Option TrainsResult :=
  (((ofIterations iterations).insertAll records).checkedRates? packetSize).map ofRates

/-- A result that gives the rates of the trains `indices` of a sequence of records, one after the
other, and these are the trains that have a rate. -/
structure Lists (result : TrainsResult) (indices : List Nat) : Prop where
  ascending : indices.Pairwise (· < ·)
  mem_iff : ∀ index, index ∈ indices ↔
    index < iterations.toNat ∧ HasRate (recordsOf records index)
  sending : result.sending =
    indices.map fun index => rateOn sent packetSize (recordsOf records index)
  receiving : result.receiving =
    indices.map fun index => rateOn received packetSize (recordsOf records index)
  length_eq : result.sending.length = result.receiving.length
  length_le : result.receiving.length ≤ iterations.toNat
  /-- Where the bytes of a train fit into a word, its rates are those of all its bytes. -/
  exact_bytes : ∀ index ∈ indices, TrainRate.Fits packetSize (recordsOf records index).length →
    (TrainRate.volume packetSize (recordsOf records index).length).toNat =
      packetSize * (recordsOf records index).length
  /-- Checked arithmetic gives this result, or none if the bytes of some train do not fit. -/
  checked : checkedRecords? iterations packetSize records =
    if ∀ index ∈ indices, TrainRate.Fits packetSize (recordsOf records index).length then
      some result
    else Option.none

/-- The trains of a sequence of records that have a rate. -/
def rated : List Nat :=
  (List.range iterations.toNat).filter fun index => HasRate (recordsOf records index)

theorem ofRecords_eq :
    ofRecords iterations packetSize records =
      ⟨(rated iterations records).map fun index =>
          rateOn sent packetSize (recordsOf records index),
        (rated iterations records).map fun index =>
          rateOn received packetSize (recordsOf records index)⟩ := by
  have husable : (((ofIterations iterations).insertAll records).rates packetSize).filterMap
      TrainRate.rates? = (rated iterations records).map fun index =>
        (rateOn sent packetSize (recordsOf records index),
          rateOn received packetSize (recordsOf records index)) := by
    rw [insertAll_ofIterations, Buckets.rates, List.map_map, List.filterMap_map, rated,
      ← List.filterMap_eq_map', List.filterMap_filter]
    refine List.filterMap_congr fun index _ => ?_
    rw [Function.comp_apply, Function.comp_apply, rates?_trainOf]
    simp only [decide_eq_true_eq]
  rw [ofRecords, ofRates, husable, List.map_map, List.map_map]
  rfl

theorem checkedRecords?_eq :
    checkedRecords? iterations packetSize records =
      if ∀ index ∈ rated iterations records,
          TrainRate.Fits packetSize (recordsOf records index).length then
        some (ofRecords iterations packetSize records)
      else Option.none := by
  have hall : (∀ index ∈ List.range iterations.toNat, HasRate (recordsOf records index) →
        TrainRate.Fits packetSize (recordsOf records index).length) ↔
      ∀ index ∈ rated iterations records,
        TrainRate.Fits packetSize (recordsOf records index).length := by
    simp only [rated, List.mem_filter, decide_eq_true_eq, and_imp]
  rw [checkedRecords?, checkedRates?_insertAll, apply_ite (Option.map ofRates)]
  simp only [hall]
  rfl

theorem lists_ofRecords :
    Lists iterations packetSize records (ofRecords iterations packetSize records)
      (rated iterations records) where
  ascending := List.pairwise_lt_range.filter _
  mem_iff := by
    intro index
    simp only [rated, List.mem_filter, List.mem_range, decide_eq_true_eq]
  sending := by rw [ofRecords_eq]
  receiving := by rw [ofRecords_eq]
  length_eq := by simp only [ofRecords_eq, List.length_map]
  length_le := by
    simp only [ofRecords_eq, List.length_map]
    exact Nat.le_trans (List.length_filter_le _ _) (Nat.le_of_eq List.length_range)
  exact_bytes := fun _ _ => TrainRate.toNat_volume_of_fits
  checked := checkedRecords?_eq iterations packetSize records

variable {iterations} {left right : List StampedRecord}

theorem rated_congr (h : SameEnds iterations left right) :
    rated iterations left = rated iterations right := by
  refine List.filter_congr fun index hmem => ?_
  have hindex := List.mem_range.mp hmem
  have hspan (clock : StampedRecord → UInt64) :
      span clock (recordsOf left index) = span clock (recordsOf right index) :=
    span_congr (h.first index hindex) (h.last index hindex)
  have hempty : recordsOf left index = [] ↔ recordsOf right index = [] := by
    rw [← List.length_eq_zero_iff, h.length index hindex, List.length_eq_zero_iff]
  rw [decide_eq_decide]
  simp only [HasRate, hspan, hempty, ne_eq]

theorem lt_of_mem_rated {index : Nat} (hmem : index ∈ rated iterations records) :
    index < iterations.toNat :=
  List.mem_range.mp (List.mem_filter.mp hmem).1

theorem ofRecords_congr (h : SameEnds iterations left right) :
    ofRecords iterations packetSize left = ofRecords iterations packetSize right := by
  have hrate (clock : StampedRecord → UInt64) :
      ((rated iterations left).map fun index => rateOn clock packetSize (recordsOf left index)) =
        (rated iterations right).map fun index =>
          rateOn clock packetSize (recordsOf right index) := by
    rw [rated_congr h]
    refine List.map_congr_left fun index hmem => ?_
    have hindex := lt_of_mem_rated right hmem
    rw [rateOn, rateOn, h.length index hindex,
      span_congr (h.first index hindex) (h.last index hindex)]
  rw [ofRecords_eq, ofRecords_eq, hrate, hrate]

theorem checkedRecords?_congr (h : SameEnds iterations left right) :
    checkedRecords? iterations packetSize left = checkedRecords? iterations packetSize right := by
  have hfits : (∀ index ∈ rated iterations right,
        TrainRate.Fits packetSize (recordsOf left index).length) ↔
      ∀ index ∈ rated iterations right,
        TrainRate.Fits packetSize (recordsOf right index).length :=
    forall₂_congr fun index hmem => by rw [h.length index (lt_of_mem_rated right hmem)]
  simp only [checkedRecords?_eq, rated_congr h, ofRecords_congr packetSize h, hfits]

/-- The rates do not depend on how trains come in between each other, nor on what comes between the
first and the last record of one. A result gives the rates of the trains that take some time on both
clocks, in the order of the trains, and of no others. The same goes for checked arithmetic, which
gives up on both sequences or on none. -/
theorem ofRecords_interleaved (iterations : UInt16) (packetSize : Nat) :
    (∀ left right, SameEnds iterations left right →
      ofRecords iterations packetSize left = ofRecords iterations packetSize right ∧
      checkedRecords? iterations packetSize left = checkedRecords? iterations packetSize right) ∧
    ∀ records, ∃ indices,
      Lists iterations packetSize records (ofRecords iterations packetSize records) indices :=
  ⟨fun _ _ hends => ⟨ofRecords_congr packetSize hends, checkedRecords?_congr packetSize hends⟩,
    fun records => ⟨_, lists_ofRecords iterations packetSize records⟩⟩

/-- Two trains, first in between each other and with a record of an unknown train, then one after
the other and with another record in the middle. One of them takes as long as stamps can tell. With
packets of the largest size there is, its bytes do not fit into a word. -/
theorem ofRecords_interleaved_two_trains :
    let left : List StampedRecord :=
      [⟨⟨0, 0, 0⟩, 0⟩, ⟨⟨5, 1, 0⟩, 3⟩, ⟨⟨1, 0, 1⟩, 4⟩, ⟨⟨7, 2, 0⟩, 5⟩,
        ⟨⟨0xFFFFFFFFFFFFFFFF, 0, 2⟩, 0xFFFFFFFFFFFFFFFF⟩, ⟨⟨4, 1, 1⟩, 8⟩]
    let right : List StampedRecord :=
      [⟨⟨0, 0, 0⟩, 0⟩, ⟨⟨9, 0, 7⟩, 9⟩, ⟨⟨0xFFFFFFFFFFFFFFFF, 0, 2⟩, 0xFFFFFFFFFFFFFFFF⟩,
        ⟨⟨5, 1, 0⟩, 3⟩, ⟨⟨4, 1, 1⟩, 8⟩]
    SameEnds 2 left right ∧ ofRecords 2 1000 left = ofRecords 2 1000 right ∧
      checkedRecords? 2 1000 left = some (ofRecords 2 1000 left) ∧
      checkedRecords? 2 0xFFFFFFFFFFFFFFFF left = Option.none ∧
      checkedRecords? 2 0xFFFFFFFFFFFFFFFF right = Option.none := by
  intro left right
  have hends : SameEnds 2 left right := by
    constructor <;> decide
  have hrated : HasRate (recordsOf left 0) := by decide
  have hfits : ∀ index < 2, TrainRate.Fits 1000 (recordsOf left index).length := by decide
  have hlarge : ¬ TrainRate.Fits 0xFFFFFFFFFFFFFFFF (recordsOf left 0).length := by decide
  obtain ⟨hsame, hlists⟩ := ofRecords_interleaved 2 1000
  obtain ⟨hlargeSame, hlargeLists⟩ := ofRecords_interleaved 2 0xFFFFFFFFFFFFFFFF
  obtain ⟨indices, hindices⟩ := hlists left
  obtain ⟨largeIndices, hlargeIndices⟩ := hlargeLists left
  have hchecked := hindices.checked
  rw [if_pos fun index hmem => hfits index ((hindices.mem_iff index).mp hmem).1] at hchecked
  have hgivenUp := hlargeIndices.checked
  rw [if_neg fun hall => hlarge (hall 0 ((hlargeIndices.mem_iff 0).mpr ⟨by decide, hrated⟩))]
    at hgivenUp
  exact ⟨hends, (hsame left right hends).1, hchecked, hgivenUp,
    (hlargeSame left right hends).2 ▸ hgivenUp⟩

end TrainsResult

end Throughput
