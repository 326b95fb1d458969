import Mathlib.Data.List.Basic
import Throughput.Proofs.Probe.Charging
import Throughput.Proofs.Train

/-!
# Noise on the line

Datagrams that no train takes, sent right behind others. What is heard with them in between has the
same beginning, was heard last at the same time and holds the same records of known trains. Nothing
else decides about the rates, so these are the same too.
-/

namespace Throughput

/-- A datagram that is too short for a record, or whose record is of an unknown train. -/
def IsNoise (iterations : UInt16) (datagram : Datagram) : Prop :=
  datagram.length < TrainRecord.headerLength ∨
    ∃ record, TrainRecord.decode datagram = .ok record ∧ iterations ≤ record.iteration

/-- A delivery, and datagrams that come on the instant at which it has come. -/
structure NoisyDelivery where
  delivery : Delivery
  noise : List Datagram
  deriving DecidableEq, Repr

namespace NoisyDelivery

def deliveries (noisy : NoisyDelivery) : List Delivery :=
  noisy.delivery :: noisy.noise.map fun datagram => ⟨0, .datagram datagram⟩

def size (noisy : NoisyDelivery) : Nat :=
  (noisy.noise.map List.length).sum

/-- All that comes with a datagram is noise, and nothing comes with an error. -/
structure Harmless (iterations : UInt16) (noisy : NoisyDelivery) : Prop where
  isNoise : ∀ datagram ∈ noisy.noise, IsNoise iterations datagram
  accompanies : noisy.noise ≠ [] → ∃ datagram, noisy.delivery.reception = .datagram datagram

theorem Harmless.noise_of_failure {iterations : UInt16} {noisy : NoisyDelivery}
    {fault : SocketFault} {cause : String} (h : noisy.Harmless iterations)
    (hreception : noisy.delivery.reception = .failure fault cause) : noisy.noise = [] := by
  by_contra hnoise
  obtain ⟨datagram, hdatagram⟩ := h.accompanies hnoise
  cases hreception.symm.trans hdatagram

end NoisyDelivery

/-! ### Rates without the noise -/

def StampedRecord.isKnown (iterations : UInt16) (stamped : StampedRecord) : Bool :=
  stamped.record.iteration < iterations

/-- Only records of known trains count. -/
theorem TrainsResult.ofHeard_congr {definition : TrainsDefinition} {left right : List Heard}
    (h : (Heard.records left).filter (·.isKnown definition.iterations) =
      (Heard.records right).filter (·.isKnown definition.iterations)) :
    ofHeard definition left = ofHeard definition right := by
  have hknown (records : List StampedRecord) {index : Nat}
      (hindex : index < definition.iterations.toNat) :
      records.filter (fun stamped => stamped.record.iteration.toNat = index) =
        (records.filter (·.isKnown definition.iterations)).filter
          fun stamped => stamped.record.iteration.toNat = index := by
    rw [List.filter_filter]
    apply List.filter_congr
    intro stamped _
    simp only [StampedRecord.isKnown, UInt16.lt_iff_toNat_lt]
    by_cases hsame : stamped.record.iteration.toNat = index <;> simp [hsame, hindex]
  have hrates : ∀ index ∈ List.range definition.iterations.toNat,
      (TrainRate.ofTrain (Buckets.trainOf (Heard.records left) index)
          definition.packetSize.toNat).rates? =
        (TrainRate.ofTrain (Buckets.trainOf (Heard.records right) index)
          definition.packetSize.toNat).rates? := by
    intro index hmem
    have hindex := List.mem_range.mp hmem
    apply TrainRate.rates?_ofTrain_of_stamps
    rw [Buckets.stamps_trainOf, Buckets.stamps_trainOf, hknown _ hindex, h, ← hknown _ hindex]
  simp only [ofHeard, ofRates, List.filterMap_map, Function.comp_def]
  rw [List.filterMap_congr hrates]

namespace Heard

theorem isKnown_noise {iterations : UInt16} {heard : Heard} {epoch : Nat} {stamped : StampedRecord}
    (hnoise : IsNoise iterations heard.datagram) (hstamped : stamped? epoch heard = some stamped) :
    stamped.isKnown iterations = false := by
  rcases hnoise with hshort | ⟨record, hrecord, hunknown⟩
  · simp [stamped?, TrainRecord.decode, hshort] at hstamped
  · simp only [stamped?, hrecord, Option.some.injEq] at hstamped
    subst hstamped
    exact decide_eq_false (UInt16.not_lt.mpr hunknown)

/-- Datagrams that are heard on one instant. -/
def allAt (time : Nat) (datagrams : List Datagram) : List Heard :=
  datagrams.map fun datagram => ⟨time, datagram⟩

theorem traffic_cons (heard : Heard) (later : List Heard) :
    traffic (heard :: later) = heard.datagram.length + traffic later := by
  simp [traffic]

theorem traffic_allAt_append (time : Nat) (datagrams : List Datagram) (later : List Heard) :
    traffic (allAt time datagrams ++ later) = (datagrams.map List.length).sum + traffic later := by
  simp [traffic, allAt, Function.comp_def]

/-- Something more on the same instant does not change when something was heard last. -/
theorem lastTime_insert (before later : List Heard) {first second : Heard}
    (htime : second.time = first.time) :
    (before ++ [first] ++ second :: later).getLast?.map time =
      (before ++ [first] ++ later).getLast?.map time := by
  cases hlater : later.getLast? <;>
    simp [List.getLast?_append, List.getLast?_cons, hlater, htime]

/-- What is heard with noise in between, compared with what is heard without. -/
structure Noisy (iterations : UInt16) (noise : Nat) (clean noisy : List Heard) : Prop where
  first : noisy.head? = clean.head?
  last : noisy.getLast?.map time = clean.getLast?.map time
  known : ∀ epoch, (noisy.filterMap (stamped? epoch)).filter (·.isKnown iterations) =
    (clean.filterMap (stamped? epoch)).filter (·.isKnown iterations)
  bytes : traffic noisy = traffic clean + noise

namespace Noisy

variable {iterations : UInt16} {noise : Nat} {clean noisy : List Heard}

theorem nil : Noisy iterations 0 [] [] :=
  ⟨rfl, rfl, fun _ => rfl, rfl⟩

theorem last_cons (h : noisy.getLast?.map time = clean.getLast?.map time) (heard : Heard)
    (datagrams : List Datagram) :
    (heard :: (allAt heard.time datagrams ++ noisy)).getLast?.map time =
      (heard :: clean).getLast?.map time := by
  induction datagrams with
  | nil =>
    cases hnoisy : noisy.getLast? <;> cases hclean : clean.getLast? <;>
      simp_all [allAt, List.getLast?_cons]
  | cons datagram datagrams ih =>
    rw [← ih]
    exact lastTime_insert [] (allAt heard.time datagrams ++ noisy) rfl

theorem cons {datagrams : List Datagram} (h : Noisy iterations noise clean noisy) (heard : Heard)
    (hnoise : ∀ datagram ∈ datagrams, IsNoise iterations datagram) :
    Noisy iterations ((datagrams.map List.length).sum + noise) (heard :: clean)
      (heard :: (allAt heard.time datagrams ++ noisy)) where
  first := rfl
  last := last_cons h.last heard datagrams
  known := by
    intro epoch
    have hunknown : ((allAt heard.time datagrams).filterMap (stamped? epoch)).filter
        (·.isKnown iterations) = [] := by
      rw [List.filter_eq_nil_iff]
      intro stamped hmem
      obtain ⟨other, hother, hstamped⟩ := List.mem_filterMap.mp hmem
      obtain ⟨datagram, hdatagram, rfl⟩ := List.mem_map.mp hother
      exact Bool.eq_false_iff.mp (isKnown_noise (hnoise datagram hdatagram) hstamped)
    rw [← List.singleton_append, ← @List.singleton_append _ heard clean]
    simp only [List.filterMap_append, List.filter_append, hunknown, List.nil_append, h.known]
  bytes := by
    rw [traffic_cons, traffic_allAt_append, traffic_cons, h.bytes]
    omega

/-- A delivery with its noise, in front of others. -/
theorem entry {entry : NoisyDelivery} (h : Noisy iterations noise clean noisy)
    (hentry : entry.Harmless iterations) (time : Nat) :
    Noisy iterations (entry.size + noise)
      ((Receipt.mk time entry.delivery.reception).heard?.toList ++ clean)
      ((Receipt.mk time entry.delivery.reception).heard?.toList ++
        (allAt time entry.noise ++ noisy)) := by
  cases hreception : entry.delivery.reception with
  | datagram datagram => exact h.cons ⟨time, datagram⟩ hentry.isNoise
  | failure fault cause =>
    rw [NoisyDelivery.size, hentry.noise_of_failure hreception]
    simpa [allAt, Receipt.heard?] using h

section Result

variable (h : Noisy iterations noise clean noisy)
include h

theorem eq_nil_iff : noisy = [] ↔ clean = [] := by
  rw [← List.head?_eq_none_iff, h.first, List.head?_eq_none_iff]

/-- The epoch is set by the same datagram, so the stamps are the same as well. -/
theorem records_known :
    (records noisy).filter (·.isKnown iterations) =
      (records clean).filter (·.isKnown iterations) := by
  cases clean with
  | nil => rw [h.eq_nil_iff.mpr rfl]
  | cons first rest =>
    obtain ⟨others, rfl⟩ := List.head?_eq_some_iff.mp h.first
    exact h.known first.time

end Result

end Noisy

end Heard

end Throughput
