import Mathlib.Data.List.Range
import Throughput.Proofs.Record
import Throughput.Sender

/-!
# What a sender sends

A sender that is never told to stop, on a socket that takes everything, sends the trains of its
definition one after the other. The packet at a place of the whole sequence belongs to the train
that the place is in. A socket that loses packets only leaves them out.
-/

namespace Throughput

namespace TrainsDefinition

variable (definition : TrainsDefinition)

/-- The packet at a place among all packets. -/
def departureAt (place : Nat) : Departure :=
  definition.departure (place / definition.trainLength.toNat)
    (place % definition.trainLength.toNat)

/-- The packets of the first trains. -/
def firstTrains (count : Nat) : List Departure :=
  (List.range count).flatMap definition.train

theorem length_departure (hsize : 12 ≤ definition.packetSize.toNat) (iteration sequence : Nat) :
    (definition.departure iteration sequence).datagram.length = definition.packetSize.toNat := by
  rw [departure, TrainRecord.length_encode]
  exact Nat.max_eq_left hsize

theorem train_eq (hlength : 0 < definition.trainLength.toNat) (iteration : Nat) :
    definition.train iteration = ((List.range definition.trainLength.toNat).map
      (iteration * definition.trainLength.toNat + ·)).map definition.departureAt := by
  rw [List.map_map, train]
  refine List.map_congr_left fun sequence hmem => ?_
  have hsequence := List.mem_range.mp hmem
  rw [Function.comp_apply, departureAt, Nat.mul_comm, Nat.mul_add_div hlength,
    Nat.mul_add_mod, Nat.div_eq_of_lt hsequence, Nat.mod_eq_of_lt hsequence, Nat.add_zero]

theorem firstTrains_eq (hlength : 0 < definition.trainLength.toNat) (count : Nat) :
    definition.firstTrains count =
      (List.range (count * definition.trainLength.toNat)).map definition.departureAt := by
  induction count with
  | zero => simp [firstTrains]
  | succ count ih =>
    rw [firstTrains] at ih ⊢
    rw [List.range_succ, List.flatMap_append, ih, List.flatMap_singleton,
      definition.train_eq hlength, Nat.succ_mul, List.range_add, List.map_append]

end TrainsDefinition

/-- What is reported of packets that were all sent. -/
def SendReport.ofDepartures (departures : List Departure) : SendReport :=
  ⟨departures.length, (departures.map fun departure => departure.datagram.length).sum⟩

theorem SendReport.ofDepartures_concat (departures : List Departure) (departure : Departure) :
    ofDepartures (departures ++ [departure]) =
      (ofDepartures departures).add departure.datagram := by
  simp [ofDepartures, add]

namespace Outlet

variable {outlet : Outlet}

/-- An outlet that fails in none of the first calls, though it may lose what it gets. -/
def Opens (outlet : Outlet) (calls : Nat) : Prop :=
  ∀ call < calls, ∀ cause, outlet call ≠ .failed cause

theorem opens_listening (calls : Nat) : listening.Opens calls := by
  simp [Opens, listening]

/-- Those of some packets that are not lost, if the first of them is sent with the call `call`. -/
def taken (outlet : Outlet) (call : Nat) (departures : List Departure) : List Departure :=
  ((departures.zipIdx call).filter fun entry => outlet entry.2 = .sent).map Prod.fst

theorem taken_cons (call : Nat) (departure : Departure) (rest : List Departure) :
    outlet.taken call (departure :: rest) =
      if outlet call = .sent then departure :: outlet.taken (call + 1) rest
      else outlet.taken (call + 1) rest := by
  by_cases hsent : outlet call = .sent <;> simp [taken, hsent]

theorem taken_append (call : Nat) (departures later : List Departure) :
    outlet.taken call (departures ++ later) =
      outlet.taken call departures ++ outlet.taken (call + departures.length) later := by
  simp only [taken, List.zipIdx_append, List.filter_append, List.map_append]

theorem taken_of_forall_sent {departures : List Departure} {call : Nat}
    (hsent : ∀ later < departures.length, outlet (call + later) = .sent) :
    outlet.taken call departures = departures := by
  rw [taken, List.filter_eq_self.mpr, List.zipIdx_map_fst]
  rintro ⟨departure, place⟩ hmem
  obtain ⟨hlow, hhigh, -⟩ := List.mem_zipIdx hmem
  have hplace := hsent (place - call) (by omega)
  rw [Nat.add_sub_cancel' hlow] at hplace
  exact decide_eq_true hplace

theorem taken_listening (call : Nat) (departures : List Departure) :
    listening.taken call departures = departures :=
  taken_of_forall_sent fun _ _ => rfl

end Outlet

namespace Sender

variable (definition : TrainsDefinition) {outlet : Outlet} {calls : Nat} {sent : List Departure}

/-- The progress of a sender after some calls, in which these packets were not lost. -/
def reached (calls : Nat) (sent : List Departure) : Progress :=
  ⟨calls, .ofDepartures sent, sent⟩

theorem sendTrain_of_opens {departures : List Departure}
    (hopens : outlet.Opens (calls + departures.length)) :
    sendTrain outlet (reached calls sent) departures =
      (reached (calls + departures.length) (sent ++ outlet.taken calls departures), .ok ()) := by
  induction departures generalizing calls sent with
  | nil => simp [sendTrain, Outlet.taken]
  | cons departure rest ih =>
    rw [List.length_cons, Nat.add_comm rest.length, ← Nat.add_assoc] at hopens ⊢
    have hopen := hopens calls (by omega)
    rw [sendTrain, Outlet.taken_cons]
    cases hanswer : outlet calls with
    | sent =>
      have hnext := @ih (calls + 1) (sent ++ [departure]) hopens
      rw [reached, SendReport.ofDepartures_concat] at hnext
      simpa [hanswer, reached] using hnext
    | lost => simpa [hanswer, reached] using ih hopens
    | failed cause => exact absurd hanswer (hopen cause)

theorem sendTrains_of_opens {iterations : List Nat} (time : Nat)
    (hopens : outlet.Opens (calls + (iterations.flatMap definition.train).length)) :
    sendTrains definition .never outlet time (reached calls sent) iterations =
      ⟨.ok (.ofDepartures (sent ++ outlet.taken calls (iterations.flatMap definition.train))),
        (iterations.getLast?.map definition.trainTime).getD time,
        sent ++ outlet.taken calls (iterations.flatMap definition.train)⟩ := by
  induction iterations generalizing time calls sent with
  | nil => simp [sendTrains, reached, Outlet.taken]
  | cons iteration rest ih =>
    rw [List.flatMap_cons, List.length_append, ← Nat.add_assoc] at hopens
    have htrain : outlet.Opens (calls + (definition.train iteration).length) :=
      fun call hcall => hopens call (Nat.lt_add_right _ hcall)
    have hlast : (rest.getLast?.map definition.trainTime).getD (definition.trainTime iteration) =
        ((iteration :: rest).getLast?.map definition.trainTime).getD time := by
      rw [List.getLast?_cons, Option.map_some, Option.getD_some, Option.getD_map]
    rw [sendTrains]
    simp only [stopTime?, sendTrain_of_opens htrain]
    rw [ih _ hopens, hlast, List.flatMap_cons, Outlet.taken_append, List.append_assoc]

/-- A sender that nothing stops takes its time over all trains, and reports what was not lost. -/
theorem run_of_opens (hopens : outlet.Opens definition.departures.length) :
    run definition .never outlet =
      ⟨.ok (.ofDepartures (outlet.taken 0 definition.departures)),
        ((List.range definition.iterations.toNat).getLast?.map definition.trainTime).getD 0,
        outlet.taken 0 definition.departures⟩ := by
  rw [← Nat.zero_add definition.departures.length] at hopens
  exact @sendTrains_of_opens definition outlet 0 [] _ 0 hopens

theorem run_listening :
    run definition .never .listening =
      ⟨.ok (.ofDepartures definition.departures),
        ((List.range definition.iterations.toNat).getLast?.map definition.trainTime).getD 0,
        definition.departures⟩ := by
  rw [run_of_opens definition (Outlet.opens_listening _), Outlet.taken_listening]

end Sender

end Throughput
