import Mathlib.Data.List.ProdSigma
import Throughput.Proofs.Probe.Agreement
import Throughput.Proofs.Reordering
import Throughput.Proofs.Train

/-!
# From the sender to the buckets

The packets of a definition have their places in a grid, train by train. A sender sends one packet
for every place, in this order, and leaves a gap between any two trains. Records that come in this
order are all filed, whenever they were sent and received: every train is filled, and none is out of
order.
-/

namespace Throughput

/-- The train of a record, and where it stands in the train. -/
def TrainRecord.place (record : TrainRecord) : Nat × Nat :=
  (record.iteration.toNat, record.sequence.toNat)

theorem filter_product {α β : Type} (p : α → Bool) (left : List α) (right : List β) :
    (left ×ˢ right).filter (fun entry => p entry.1) = left.filter p ×ˢ right := by
  induction left with
  | nil => simp
  | cons a left ih =>
    have hrow : (right.map fun b => (a, b)).filter (fun entry => p entry.1) =
        if p a then right.map fun b => (a, b) else [] := by
      rw [List.filter_map]
      cases ha : p a <;> simp [Function.comp_def, ha]
    rw [List.product_cons, List.filter_append, ih, hrow, List.filter_cons]
    split
    · rw [List.product_cons]
    · rw [List.nil_append]

namespace TrainsDefinition

/-- The places of all packets, train by train. -/
def places (definition : TrainsDefinition) : List (Nat × Nat) :=
  List.range definition.iterations.toNat ×ˢ List.range definition.trainLength.toNat

/-- The record that is sent for a place. -/
def recordAt (definition : TrainsDefinition) (place : Nat × Nat) : TrainRecord :=
  ⟨Numeric.clampWord64 (definition.trainTime place.1), UInt16.ofNat place.1,
    UInt16.ofNat place.2⟩

variable {definition : TrainsDefinition}

theorem mem_places {place : Nat × Nat} :
    place ∈ definition.places ↔
      place.1 < definition.iterations.toNat ∧ place.2 < definition.trainLength.toNat := by
  rw [places, List.mem_product, List.mem_range, List.mem_range]

theorem length_places :
    definition.places.length = definition.iterations.toNat * definition.trainLength.toNat := by
  rw [places, List.length_product, List.length_range, List.length_range]

/-- No train begins before the one that precedes it is complete. -/
theorem pairwise_places : definition.places.Pairwise fun early late => early.1 ≤ late.1 := by
  refine List.pairwise_flatMap.mpr ⟨?_, ?_⟩
  · intro iteration _
    exact List.pairwise_map.mpr (List.pairwise_of_forall fun _ _ => Nat.le_refl iteration)
  · refine List.pairwise_lt_range.imp fun {early late} hlt => ?_
    simp only [List.forall_mem_map]
    exact fun _ _ _ _ => Nat.le_of_lt hlt

/-- The places of one train are a row of the grid. -/
theorem filter_fst_places {index : Nat} (hindex : index < definition.iterations.toNat) :
    definition.places.filter (fun place => place.1 = index) =
      (List.range definition.trainLength.toNat).map (Prod.mk index) := by
  have hrow : (List.range definition.iterations.toNat).filter (fun iteration => iteration = index) =
      [index] := by
    rw [List.filter_eq, List.count_range, if_pos hindex]
    rfl
  rw [places, filter_product (fun iteration => decide (iteration = index)), hrow,
    List.product_cons, List.nil_product, List.append_nil]

theorem departures_eq :
    definition.departures =
      definition.places.map fun place => definition.departure place.1 place.2 := by
  change _ = List.map _ (List.flatMap _ _)
  rw [departures, List.map_flatMap]
  simp only [List.map_map]
  rfl

theorem decode_departure (place : Nat × Nat) :
    TrainRecord.decode (definition.departure place.1 place.2).datagram =
      .ok (definition.recordAt place) :=
  TrainRecord.decode_encode _ _

theorem place_recordAt {place : Nat × Nat} (hplace : place ∈ definition.places) :
    (definition.recordAt place).place = place := by
  obtain ⟨hiteration, hsequence⟩ := mem_places.mp hplace
  have hiterations := definition.iterations.toNat_lt
  have hlength := definition.trainLength.toNat_lt
  rw [TrainRecord.place, recordAt, UInt16.toNat_ofNat_of_lt' (show _ < 65536 by omega),
    UInt16.toNat_ofNat_of_lt' (show _ < 65536 by omega)]

theorem trainTime_last :
    ((List.range definition.iterations.toNat).getLast?.map definition.trainTime).getD 0 =
      (definition.iterations.toNat - 1) * (definition.trainGap.toNat * nanosPerMilli) := by
  rw [List.getLast?_range]
  split
  · next hnone => simp [hnone]
  · rw [Option.map_some, Option.getD_some, trainTime]

end TrainsDefinition

/-! ### What is sent -/

namespace SendRun

/-- A run that sends the packets of all places in order and pauses between any two trains. The
stamps of the records never go back. -/
structure Covers (run : SendRun) (definition : TrainsDefinition) : Prop where
  records : ∃ records : List TrainRecord,
    run.sent.map (fun departure => TrainRecord.decode departure.datagram) = records.map .ok ∧
      records.map TrainRecord.place = definition.places ∧
      records.Pairwise fun earlier later => earlier.sent ≤ later.sent
  size : ∀ departure ∈ run.sent, departure.datagram.length = definition.packetSize.toNat
  times : run.sent.map Departure.time =
    definition.places.map fun place => place.1 * (definition.trainGap.toNat * nanosPerMilli)
  elapsed : run.elapsed =
    (definition.iterations.toNat - 1) * (definition.trainGap.toNat * nanosPerMilli)
  outcome : run.outcome =
    .ok ⟨definition.iterations.toNat * definition.trainLength.toNat,
      definition.iterations.toNat * definition.trainLength.toNat * definition.packetSize.toNat⟩

/-- A run that is another one but for the packets that an outlet loses. -/
structure LeavesOut (lossy whole : SendRun) (outlet : Outlet) : Prop where
  sent : lossy.sent = outlet.taken 0 whole.sent
  outcome : lossy.outcome = .ok (.ofDepartures (outlet.taken 0 whole.sent))
  elapsed : lossy.elapsed = whole.elapsed

end SendRun

namespace Sender

variable {definition : TrainsDefinition}

theorem covers_run (hbounded : definition.Bounded) :
    (run definition .never .listening).Covers definition := by
  rw [run_listening]
  constructor
  case records =>
    refine ⟨definition.places.map definition.recordAt, ?_, ?_, ?_⟩
    · simp only [TrainsDefinition.departures_eq, List.map_map, Function.comp_def,
        TrainsDefinition.decode_departure]
    · rw [List.map_map]
      exact (List.map_congr_left fun _ => TrainsDefinition.place_recordAt).trans (List.map_id _)
    · refine List.pairwise_map.mpr (TrainsDefinition.pairwise_places.imp fun {early late} hle => ?_)
      have htime := definition.trainTime_mono hle
      simp only [TrainsDefinition.recordAt, UInt64.le_iff_toNat_le, Numeric.toNat_clampWord64]
      exact Nat.le_min.mpr ⟨Nat.le_trans (Nat.min_le_left _ _) htime, Nat.min_le_right _ _⟩
  case size =>
    intro departure hmem
    simp only [TrainsDefinition.departures_eq, List.mem_map] at hmem
    obtain ⟨place, -, rfl⟩ := hmem
    exact definition.length_departure hbounded.le_packetSize place.1 place.2
  case times =>
    simp only [TrainsDefinition.departures_eq, List.map_map]
    rfl
  case elapsed => exact TrainsDefinition.trainTime_last
  case outcome => rw [Probe.report_departures hbounded]

theorem leavesOut_run {outlet : Outlet} (hopens : outlet.Opens definition.departures.length) :
    (run definition .never outlet).LeavesOut (run definition .never .listening) outlet := by
  rw [run_of_opens definition hopens, run_listening]
  exact ⟨rfl, rfl, rfl⟩

end Sender

/-! ### What is filed -/

namespace TrainsDefinition

/-- Filing some records accepts each of them, fills the trains of a definition, and finds no packet
in them that was overtaken. -/
structure FilesAll (definition : TrainsDefinition) (stamped : List StampedRecord) : Prop where
  accepts : ∀ before next after, stamped = before ++ next :: after →
    (((Buckets.ofIterations definition.iterations).insertAll before).insert next.record
      next.received).2 = .ok (UInt32.ofNat before.length)
  iterations : ((Buckets.ofIterations definition.iterations).insertAll stamped).trains.length =
    definition.iterations.toNat
  full : ∀ train ∈ ((Buckets.ofIterations definition.iterations).insertAll stamped).trains,
    train.length = definition.trainLength.toNat
  ordered : ∀ train ∈ ((Buckets.ofIterations definition.iterations).insertAll stamped).trains,
    TrainRate.reordered train = 0
  rates : ∀ sending receiving reordered, .rate sending receiving reordered ∈
    ((Buckets.ofIterations definition.iterations).insertAll stamped).rates
      definition.packetSize.toNat → reordered = 0

variable {definition : TrainsDefinition} {stamped : List StampedRecord}

theorem sequences_trainOf
    (hplaces : stamped.map (fun entry => entry.record.place) = definition.places) {index : Nat}
    (hindex : index < definition.iterations.toNat) :
    (Buckets.trainOf stamped index).map (fun arrival => arrival.sequence.toNat) =
      List.range definition.trainLength.toNat := by
  have hrow : (Buckets.recordsOf stamped index).map (fun entry => entry.record.place) =
      (List.range definition.trainLength.toNat).map (Prod.mk index) := by
    rw [← filter_fst_places hindex, ← hplaces, List.filter_map]
    rfl
  calc
    _ = (Buckets.recordsOf stamped index).map fun entry => entry.record.place.2 :=
      Buckets.map_trainOf (fun _ _ => rfl) stamped index
    _ = ((Buckets.recordsOf stamped index).map fun entry => entry.record.place).map Prod.snd :=
      List.map_map.symm
    _ = List.range definition.trainLength.toNat := by
      rw [hrow, List.map_map]
      exact List.map_id _

theorem filesAll (hplaces : stamped.map (fun entry => entry.record.place) = definition.places) :
    definition.FilesAll stamped := by
  have htrains : ((Buckets.ofIterations definition.iterations).insertAll stamped).trains =
      (List.range definition.iterations.toNat).map (Buckets.trainOf stamped) := by
    rw [Buckets.insertAll_ofIterations]
  have hordered : ∀ train ∈ ((Buckets.ofIterations definition.iterations).insertAll stamped).trains,
      TrainRate.reordered train = 0 := by
    rw [htrains, List.forall_mem_map]
    intro index hmem
    have hrange : (List.range definition.trainLength.toNat).Pairwise (· ≤ ·) :=
      List.pairwise_le_range
    rw [← sequences_trainOf hplaces (List.mem_range.mp hmem), List.pairwise_map] at hrange
    rw [TrainRate.reordered_eq_zero_iff, List.pairwise_map]
    exact hrange
  constructor
  case accepts =>
    rintro before next after rfl
    have hindex : next.record.place ∈ definition.places := by
      rw [← hplaces]
      exact List.mem_map_of_mem List.mem_append_cons_self
    rw [Buckets.insertAll_ofIterations, Buckets.insert, if_pos]
    rw [List.length_map, List.length_range]
    exact (mem_places.mp hindex).1
  case iterations => rw [htrains, List.length_map, List.length_range]
  case full =>
    rw [htrains, List.forall_mem_map]
    intro index hmem
    have hlength := congrArg List.length (sequences_trainOf hplaces (List.mem_range.mp hmem))
    rwa [List.length_map, List.length_range] at hlength
  case ordered => exact hordered
  case rates =>
    intro sending receiving reordered hmem
    obtain ⟨train, htrain, hrate⟩ := List.mem_map.mp hmem
    rw [TrainRate.eq_reordered_of_ofTrain hrate, hordered train htrain]

end TrainsDefinition

/-- A sender with a valid definition sends a packet for every place, in order. An outlet that loses
packets only leaves them out. Records of the same places are all filed and fill the trains in order,
whatever their stamps are. -/
theorem Sender.run_covers {definition : TrainsDefinition}
    (hvalid : definition.validate = .ok definition) :
    (run definition .never .listening).Covers definition ∧
      (∀ outlet : Outlet,
        outlet.Opens (definition.iterations.toNat * definition.trainLength.toNat) →
          (run definition .never outlet).LeavesOut (run definition .never .listening) outlet) ∧
      ∀ stamped : List StampedRecord,
        stamped.map (fun entry => entry.record.place) = definition.places →
          definition.FilesAll stamped := by
  refine ⟨covers_run (TrainsDefinition.bounded_of_validate hvalid), ?_, ?_⟩
  · intro outlet hopens
    refine leavesOut_run ?_
    rwa [TrainsDefinition.departures_eq, List.length_map, TrainsDefinition.length_places]
  · exact fun _ => TrainsDefinition.filesAll

/-- Two trains of three packets. Nobody listens, which costs every second packet; then the records
of all places are filed, with stamps that go back. -/
theorem Sender.run_covers_two_trains :
    let definition : TrainsDefinition := ⟨2, 3, 100, 5⟩
    let stamped : List StampedRecord :=
      [⟨⟨0, 0, 0⟩, 0⟩, ⟨⟨7, 0, 1⟩, 9⟩, ⟨⟨3, 0, 2⟩, 4⟩, ⟨⟨8, 1, 0⟩, 9⟩, ⟨⟨9, 1, 1⟩, 9⟩,
        ⟨⟨0xFFFFFFFFFFFFFFFF, 1, 2⟩, 9⟩]
    definition.validate = .ok definition ∧
      (run definition .never .listening).Covers definition ∧
      Outlet.rejecting.Opens 6 ∧
      (run definition .never .rejecting).LeavesOut (run definition .never .listening)
        .rejecting ∧
      stamped.map (fun entry => entry.record.place) = definition.places ∧
      definition.FilesAll stamped := by
  intro definition stamped
  have hvalid : definition.validate = .ok definition := rfl
  have hopens : Outlet.rejecting.Opens 6 := by
    intro call _ cause
    simp only [Outlet.rejecting]
    split <;> nofun
  have hplaces : stamped.map (fun entry => entry.record.place) = definition.places := by decide
  obtain ⟨hcovers, hlossy, hfiles⟩ := run_covers hvalid
  exact ⟨hvalid, hcovers, hopens, hlossy .rejecting hopens, hplaces, hfiles stamped hplaces⟩

end Throughput
