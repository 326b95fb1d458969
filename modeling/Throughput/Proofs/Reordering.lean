import Mathlib.Data.List.Induction
import Mathlib.Tactic.Tauto
import Throughput.Train

/-!
# Reordered packets

How many packets of a train came after one with a higher sequence number. A train has none exactly
when its sequence numbers never fall. Without the packets that are counted, what is left of a train
has none either, and the highest sequence number is still among it.
-/

namespace Throughput.TrainRate

/-- The packets of a train that one with a higher sequence number has overtaken. -/
def reordered : List Arrival → Nat
  | [] => 0
  | first :: rest => countReordered first.sequence rest

theorem eq_reordered_of_ofTrain {train : List Arrival} {packetSize count : Nat}
    {sending receiving : Float} (h : ofTrain train packetSize = .rate sending receiving count) :
    count = reordered train := by
  cases train with
  | nil => cases h
  | cons first rest =>
    rw [ofTrain] at h
    split at h
    · cases h
    · cases h
      rfl

/-- The highest sequence number so far is the last one as long as none is lower. -/
theorem countReordered_eq_zero_iff (highest : UInt16) (rest : List Arrival) :
    countReordered highest rest = 0 ↔
      (highest :: rest.map Arrival.sequence).Pairwise (· ≤ ·) := by
  induction rest generalizing highest with
  | nil => simp [countReordered]
  | cons packet rest ih =>
    rw [countReordered, List.map_cons]
    split
    · next hlower =>
      refine iff_of_false (Nat.succ_ne_zero _) fun hordered => ?_
      have hle := List.rel_of_pairwise_cons hordered List.mem_cons_self
      exact UInt16.not_le.mpr hlower hle
    · next hhigher =>
      have hle := UInt16.not_lt.mp hhigher
      rw [ih]
      refine ⟨fun hordered => List.pairwise_cons.mpr ⟨?_, hordered⟩, List.Pairwise.of_cons⟩
      refine List.forall_mem_cons.mpr ⟨hle, fun sequence hmem => ?_⟩
      exact UInt16.le_trans hle (List.rel_of_pairwise_cons hordered hmem)

theorem reordered_eq_zero_iff (train : List Arrival) :
    reordered train = 0 ↔ (train.map Arrival.sequence).Pairwise (· ≤ ·) := by
  cases train with
  | nil => simp [reordered]
  | cons first rest => exact countReordered_eq_zero_iff first.sequence rest

/-! ### Which packets are counted -/

/-- Whether one of the packets before has a higher sequence number. -/
def isLate (before : List Arrival) (packet : Arrival) : Bool :=
  before.any fun earlier => packet.sequence < earlier.sequence

/-- The packets of a train, each with whether it is late for those before it. -/
def marked (train : List Arrival) : List (Arrival × Bool) :=
  train.zipIdx.map fun place => (place.1, isLate (train.take place.2) place.1)

/-- The packets that came after one with a higher sequence number. -/
def overtaken (train : List Arrival) : List Arrival :=
  ((marked train).filter fun entry => entry.2).map Prod.fst

/-- What is left of a train without them. -/
def inOrder (train : List Arrival) : List Arrival :=
  ((marked train).filter fun entry => !entry.2).map Prod.fst

def highest? (train : List Arrival) : Option Nat :=
  (train.map fun packet => packet.sequence.toNat).max?

theorem isLate_iff {before : List Arrival} {packet : Arrival} :
    isLate before packet = true ↔ ∃ earlier ∈ before, packet.sequence < earlier.sequence := by
  simp [isLate]

theorem isLate_cons {other packet : Arrival} {before : List Arrival} :
    isLate (other :: before) packet = true ↔
      packet.sequence < other.sequence ∨ isLate before packet = true := by
  simp [isLate]

section Concat

variable (train : List Arrival) (packet : Arrival)

theorem marked_concat :
    marked (train ++ [packet]) = marked train ++ [(packet, isLate train packet)] := by
  unfold marked
  rw [List.zipIdx_append, List.map_append]
  congr 1
  · refine List.map_congr_left fun place hmem => ?_
    obtain ⟨-, hlt, -⟩ := List.mem_zipIdx hmem
    rw [List.take_append_of_le_length (by omega)]
  · simp

theorem overtaken_concat :
    overtaken (train ++ [packet]) =
      overtaken train ++ if isLate train packet then [packet] else [] := by
  rw [overtaken, marked_concat, List.filter_append, List.map_append, overtaken]
  cases isLate train packet <;> rfl

theorem inOrder_concat :
    inOrder (train ++ [packet]) =
      inOrder train ++ if isLate train packet then [] else [packet] := by
  rw [inOrder, marked_concat, List.filter_append, List.map_append, inOrder]
  cases isLate train packet <;> rfl

/-- The sequence number that the count keeps is the highest of all before, also of those that were
counted. -/
theorem countReordered_concat (highest : UInt16) (rest : List Arrival) :
    countReordered highest (rest ++ [packet]) =
      countReordered highest rest +
        if packet.sequence < highest ∨ isLate rest packet = true then 1 else 0 := by
  induction rest generalizing highest with
  | nil => simp [countReordered, isLate]
  | cons other rest ih =>
    rw [List.cons_append, countReordered, countReordered]
    split
    · next hlower =>
      have hcond : packet.sequence < highest ∨ isLate (other :: rest) packet = true ↔
          packet.sequence < highest ∨ isLate rest packet = true := by
        have hbelow (h : packet.sequence < other.sequence) : packet.sequence < highest :=
          UInt16.lt_trans h hlower
        rw [isLate_cons]
        tauto
      rw [ih, if_congr hcond rfl rfl, Nat.add_right_comm]
    · next hhigher =>
      have hcond : packet.sequence < highest ∨ isLate (other :: rest) packet = true ↔
          packet.sequence < other.sequence ∨ isLate rest packet = true := by
        have hbelow (h : packet.sequence < highest) : packet.sequence < other.sequence :=
          UInt16.lt_of_lt_of_le h (UInt16.not_lt.mp hhigher)
        rw [isLate_cons]
        tauto
      rw [ih, if_congr hcond rfl rfl]

theorem reordered_concat :
    reordered (train ++ [packet]) =
      reordered train + if isLate train packet then 1 else 0 := by
  cases train with
  | nil => rfl
  | cons first rest =>
    change countReordered first.sequence (rest ++ [packet]) = _
    rw [countReordered_concat]
    simp [reordered, isLate]

end Concat

theorem reordered_eq_length_overtaken (train : List Arrival) :
    reordered train = (overtaken train).length := by
  induction train using List.reverseRecOn with
  | nil => rfl
  | append_singleton train packet ih =>
    rw [reordered_concat, overtaken_concat, List.length_append, ih]
    split <;> rfl

theorem length_inOrder_add (train : List Arrival) :
    (inOrder train).length + (overtaken train).length = train.length := by
  induction train using List.reverseRecOn with
  | nil => rfl
  | append_singleton train packet ih =>
    rw [inOrder_concat, overtaken_concat]
    split <;> simp <;> omega

theorem mem_of_mem_inOrder {train : List Arrival} {packet : Arrival}
    (hmem : packet ∈ inOrder train) : packet ∈ train := by
  simp only [inOrder, marked, List.mem_map, List.mem_filter] at hmem
  obtain ⟨_, ⟨⟨place, hplace, rfl⟩, -⟩, rfl⟩ := hmem
  exact List.fst_mem_of_mem_zipIdx hplace

/-- Every packet is reached by one that nothing has overtaken. -/
theorem exists_inOrder_le {train : List Arrival} {packet : Arrival} (hmem : packet ∈ train) :
    ∃ kept ∈ inOrder train, packet.sequence ≤ kept.sequence := by
  induction train using List.reverseRecOn generalizing packet with
  | nil => cases hmem
  | append_singleton train last ih =>
    have hbefore {earlier : Arrival} (hearlier : earlier ∈ train) :
        ∃ kept ∈ inOrder (train ++ [last]), earlier.sequence ≤ kept.sequence := by
      obtain ⟨kept, hkept, hle⟩ := ih hearlier
      rw [inOrder_concat]
      exact ⟨kept, List.mem_append_left _ hkept, hle⟩
    rcases List.mem_append.mp hmem with hearlier | hlast
    · exact hbefore hearlier
    · obtain rfl := List.mem_singleton.mp hlast
      cases hlate : isLate train packet with
      | false => exact ⟨packet, by simp [inOrder_concat, hlate], UInt16.le_refl _⟩
      | true =>
        obtain ⟨earlier, hearlier, hlower⟩ := isLate_iff.mp hlate
        obtain ⟨kept, hkept, hle⟩ := hbefore hearlier
        exact ⟨kept, hkept, UInt16.le_trans (UInt16.le_of_lt hlower) hle⟩

theorem pairwise_inOrder (train : List Arrival) :
    ((inOrder train).map Arrival.sequence).Pairwise (· ≤ ·) := by
  induction train using List.reverseRecOn with
  | nil => exact .nil
  | append_singleton train packet ih =>
    rw [inOrder_concat]
    cases hlate : isLate train packet with
    | true => simpa using ih
    | false =>
      have hle : ∀ kept ∈ inOrder train, kept.sequence ≤ packet.sequence := by
        intro kept hkept
        apply UInt16.not_lt.mp
        intro hlower
        rw [isLate_iff.mpr ⟨kept, mem_of_mem_inOrder hkept, hlower⟩] at hlate
        cases hlate
      rw [if_neg Bool.false_ne_true, List.map_append, List.pairwise_append]
      exact ⟨ih, List.pairwise_singleton _ _, by simpa using hle⟩

theorem highest?_inOrder (train : List Arrival) : highest? (inOrder train) = highest? train := by
  cases hhighest : highest? train with
  | none =>
    have hnil : train = [] := by simpa [highest?] using hhighest
    rw [hnil]
    rfl
  | some highest =>
    rw [highest?, List.max?_eq_some_iff] at hhighest ⊢
    obtain ⟨hreached, hbound⟩ := hhighest
    have hlimit : ∀ packet ∈ train, packet.sequence.toNat ≤ highest :=
      fun packet hmem => hbound _ (List.mem_map_of_mem hmem)
    constructor
    · obtain ⟨packet, hmem, rfl⟩ := List.mem_map.mp hreached
      obtain ⟨kept, hkept, hle⟩ := exists_inOrder_le hmem
      have hsame : kept.sequence.toNat = packet.sequence.toNat :=
        Nat.le_antisymm (hlimit kept (mem_of_mem_inOrder hkept)) hle
      exact List.mem_map.mpr ⟨kept, hkept, hsame⟩
    · intro sequence hmem
      obtain ⟨kept, hkept, rfl⟩ := List.mem_map.mp hmem
      exact hlimit kept (mem_of_mem_inOrder hkept)

theorem length_overtaken_lt {train : List Arrival} (hsome : train ≠ []) :
    (overtaken train).length < train.length := by
  obtain ⟨packet, hmem⟩ := List.exists_mem_of_ne_nil train hsome
  obtain ⟨kept, hkept, -⟩ := exists_inOrder_le hmem
  have hpos := List.length_pos_of_mem hkept
  have hwhole := length_inOrder_add train
  omega

/-- What the number of reordered packets of a train says about it. -/
structure Reorders (train : List Arrival) (count : Nat) : Prop where
  counted : count = (overtaken train).length
  nothing : count = 0 ↔ (train.map Arrival.sequence).Pairwise (· ≤ ·)
  fewer : count < train.length
  /-- Without those packets the train counts none, also where it is rated again. -/
  cleared : reordered (inOrder train) = 0
  rerated : ∀ packetSize sending receiving again,
    ofTrain (inOrder train) packetSize = .rate sending receiving again → again = 0
  kept : (inOrder train).length + count = train.length
  highest : highest? (inOrder train) = highest? train

/-- The packets of a rated train that count as reordered are those that came after one with a higher
sequence number. -/
theorem ofTrain_reorders {train : List Arrival} {packetSize count : Nat}
    {sending receiving : Float} (h : ofTrain train packetSize = .rate sending receiving count) :
    Reorders train count := by
  have hsome : train ≠ [] := by
    rintro rfl
    cases h
  obtain rfl := eq_reordered_of_ofTrain h
  have hcleared : reordered (inOrder train) = 0 :=
    (reordered_eq_zero_iff _).mpr (pairwise_inOrder train)
  have hcounted := reordered_eq_length_overtaken train
  refine ⟨hcounted, reordered_eq_zero_iff train, ?_, hcleared, ?_, ?_, highest?_inOrder train⟩
  · rw [hcounted]
    exact length_overtaken_lt hsome
  · intro packetSize sending receiving again hagain
    rw [eq_reordered_of_ofTrain hagain, hcleared]
  · rw [hcounted]
    exact length_inOrder_add train

/-- A gap and a duplicate do not count, and each of two late packets counts once. -/
theorem ofTrain_reorders_two_late :
    let train : List Arrival :=
      [⟨1, 0, 0, 0⟩, ⟨4, 40, 10, 1⟩, ⟨2, 20, 20, 2⟩, ⟨4, 40, 30, 3⟩, ⟨3, 30, 40, 4⟩]
    ∃ sending receiving, ofTrain train 12 = .rate sending receiving 2 ∧
      overtaken train = [⟨2, 20, 20, 2⟩, ⟨3, 30, 40, 4⟩] ∧ Reorders train 2 :=
  ⟨_, _, rfl, rfl, @ofTrain_reorders _ 12 _ _ _ rfl⟩

end Throughput.TrainRate
