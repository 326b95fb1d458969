import Throughput.Proofs.StableSort
import Throughput.Proofs.Worker.Readings

/-!
# What a worker has received

A worker counts the bytes that it read up to the end of the stream, if its first reading brought
any. Readings that come after a worker is settled count for nothing, so the traffic up to some time
is that of the readings before it.
-/

namespace Throughput

namespace Readings

def traffic (readings : Readings) : Nat :=
  if readings.delivers then totalBytes readings.samples else 0

theorem totalBytes_reported (id : Nat) (readings : Readings) :
    totalBytes (Worker.reported id readings).samples = readings.traffic := by
  by_cases hbegun : readings = []
  · subst hbegun
    rfl
  · cases hdelivers : readings.delivers with
    | true => rw [Worker.reported_of_delivers hdelivers, traffic, if_pos hdelivers]
    | false =>
      rw [Worker.reported_of_silent hbegun hdelivers, traffic, hdelivers]
      rfl

theorem traffic_append_of_over {readings : Readings} (hbegun : readings ≠ [])
    (hover : (readings.delivers && !readings.closes) = false) (more : Readings) :
    traffic (readings ++ more) = readings.traffic := by
  rw [← totalBytes_reported 0, ← totalBytes_reported 0, Worker.reported, Worker.reported,
    Task.ofReadings_append hbegun hover]

theorem traffic_reached {reached : Nat → Bool}
    (hdown : ∀ early late, early ≤ late → reached late → reached early) {readings : Readings}
    (hascending : Ascending TimedReading.time readings) :
    (traffic (readings.filter fun timed => reached timed.time)) =
      if readings.delivers then
        totalBytes (samples (readings.filter fun timed => reached timed.time))
      else 0 := by
  cases readings with
  | nil => rfl
  | cons first rest =>
    cases hfirst : reached first.time with
    | true =>
      rw [List.filter_cons_of_pos (by simpa using hfirst)]
      rfl
    | false =>
      rw [hascending.filter_eq_nil hdown hfirst]
      exact (ite_self 0).symm

end Readings

end Throughput
