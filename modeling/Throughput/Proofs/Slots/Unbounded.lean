import Throughput.Proofs.Slots

/-!
# Slots without the limit of a word

The breakdown into slots, with whole numbers of any size. A boundary that stops at the end of the
signed range changes nothing, as no sample lies past that. A slot length beyond the signed range of
milliseconds stops short of it, at the last whole millisecond. A sample between the two is cut off,
although its slot is far from over.
-/

namespace Throughput

open Numeric

namespace Slot

variable {slot : Slot} {length : Int} {sample : Sample} {rest : List Sample}

/-- The slot after this one, with a boundary that nothing stops. -/
def nextUnbounded (slot : Slot) (length : Int) (sample : Sample) : Slot :=
  { origin := slot.last
    last := sample.elapsed
    boundary := max (slot.boundary + length) sample.elapsed
    bytes := sample.bytes }

def slicesUnbounded (length : Int) (slot : Slot) : List Sample → List Float
  | [] => [slot.rate]
  | sample :: rest =>
    if slot.boundary < sample.elapsed then
      slot.rate :: slicesUnbounded length (slot.nextUnbounded length sample) rest
    else
      slicesUnbounded length (slot.add sample) rest

/-! ### Boundaries that stop at the end of the range -/

def capped (slot : Slot) : Slot :=
  { slot with boundary := min maxSigned64 slot.boundary }

theorem next_capped (hahead : 0 ≤ slot.boundary) (hlength : 0 ≤ length)
    (hword : sample.elapsed ≤ maxSigned64) :
    slot.capped.next (min maxSigned64 length) sample =
      (slot.nextUnbounded length sample).capped := by
  have hboundary : max (clampSigned64 (min maxSigned64 slot.boundary + min maxSigned64 length))
      sample.elapsed = min maxSigned64 (max (slot.boundary + length) sample.elapsed) := by
    simp only [clampSigned64, minSigned64, maxSigned64] at hword ⊢
    omega
  simp only [next, capped, nextUnbounded, hboundary]

/-- The boundary of each slot is the exact one, as far as that fits into the range. -/
theorem slices_capped (hahead : 0 ≤ slot.boundary) (hlength : 0 ≤ length)
    (hword : ∀ sample ∈ rest, sample.elapsed ≤ maxSigned64) :
    slices (min maxSigned64 length) slot.capped rest = slicesUnbounded length slot rest := by
  induction rest generalizing slot with
  | nil => rfl
  | cons sample rest ih =>
    obtain ⟨hsample, hrest⟩ := List.forall_mem_cons.mp hword
    have hpast : slot.capped.boundary < sample.elapsed ↔ slot.boundary < sample.elapsed := by
      change min maxSigned64 slot.boundary < sample.elapsed ↔ _
      omega
    simp only [slices, slicesUnbounded, hpast]
    split
    · have hmoved : 0 ≤ (slot.nextUnbounded length sample).boundary :=
        le_max_of_le_left (Int.add_nonneg hahead hlength)
      rw [next_capped hahead hlength hsample, ih hmoved hrest]
      rfl
    · exact @ih (slot.add sample) hahead hrest

/-! ### Slots that nothing cuts -/

theorem slices_of_within {bound exact : Int}
    (hwithin : ∀ sample ∈ rest, sample.elapsed ≤ slot.boundary) (hbound : slot.boundary ≤ bound) :
    slices length slot rest = slicesUnbounded exact { slot with boundary := bound } rest := by
  induction rest generalizing slot with
  | nil => rfl
  | cons sample rest ih =>
    obtain ⟨hsample, hrest⟩ := List.forall_mem_cons.mp hwithin
    rw [slices, slicesUnbounded, if_neg (Int.not_lt.mpr hsample),
      if_neg (Int.not_lt.mpr (Int.le_trans hsample hbound))]
    exact ih hrest hbound

theorem length_slicesUnbounded_of_within
    (hwithin : ∀ sample ∈ rest, sample.elapsed ≤ slot.boundary) :
    (slicesUnbounded length slot rest).length = 1 := by
  induction rest generalizing slot with
  | nil => rfl
  | cons sample rest ih =>
    obtain ⟨hsample, hrest⟩ := List.forall_mem_cons.mp hwithin
    rw [slicesUnbounded, if_neg (Int.not_lt.mpr hsample)]
    exact ih hrest

theorem length_slices_pos : 0 < (slices length slot rest).length := by
  induction rest generalizing slot with
  | nil => exact Nat.one_pos
  | cons sample rest ih =>
    rw [slices]
    split
    · exact Nat.succ_pos _
    · exact ih

theorem one_lt_length_slices (hpast : ∃ sample ∈ rest, slot.boundary < sample.elapsed) :
    1 < (slices length slot rest).length := by
  induction rest generalizing slot with
  | nil => simp at hpast
  | cons sample rest ih =>
    rw [slices]
    split
    · exact Nat.succ_lt_succ length_slices_pos
    · next hwithin =>
      obtain ⟨later, hmem, hlater⟩ := hpast
      rcases List.mem_cons.mp hmem with rfl | hmem
      · exact absurd hlater hwithin
      · exact ih ⟨later, hmem, hlater⟩

end Slot

def timeSlicesUnbounded (samples : List Sample) (slotMillis : Nat) : List Float :=
  match samples with
  | [] => []
  | first :: rest =>
    let length : Int := Span.ofMillis slotMillis
    Slot.slicesUnbounded length ⟨first.elapsed, first.elapsed, length, first.bytes⟩ rest

/-- The longest slot length in the range that is whole in milliseconds. -/
def longestWhole : Int :=
  maxSigned64 / nanosPerMilli * nanosPerMilli

theorem slotLength_of_lt {millis : Nat} (hmillis : maxSigned64 < millis) :
    slotLength millis = longestWhole := by
  rw [slotLength, if_neg (Int.not_le.mpr hmillis)]
  rfl

section Unbounded

variable {first : Sample} {rest : List Sample} {millis : Nat}
  (hword : ∀ sample ∈ rest, sample.elapsed ≤ maxSigned64)
include hword

theorem timeSlices_of_le (hmillis : (millis : Int) ≤ maxSigned64) :
    timeSlices (first :: rest) millis = timeSlicesUnbounded (first :: rest) millis := by
  let slot : Slot := ⟨first.elapsed, first.elapsed, Span.ofMillis millis, first.bytes⟩
  have hlength : (0 : Int) ≤ Span.ofMillis millis := Int.natCast_nonneg _
  change Slot.slices (slotLength millis) ⟨_, _, slotLength millis, _⟩ rest = _
  rw [slotLength_eq hmillis]
  exact @Slot.slices_capped slot _ rest hlength hlength hword

/-- A slot length beyond the range lies past every sample, but what it is rounded down to may
not. -/
theorem timeSlices_eq_iff_of_lt (hmillis : maxSigned64 < millis) :
    timeSlices (first :: rest) millis = timeSlicesUnbounded (first :: rest) millis ↔
      ∀ sample ∈ rest, sample.elapsed ≤ longestWhole := by
  have hbeyond : maxSigned64 ≤ (Span.ofMillis millis : Int) := by
    simp only [Span.ofMillis, nanosPerMilli, maxSigned64] at hmillis ⊢
    push_cast
    omega
  have hrounded : longestWhole ≤ (Span.ofMillis millis : Int) :=
    Int.le_trans (by decide) hbeyond
  change Slot.slices (slotLength millis) ⟨_, _, slotLength millis, _⟩ rest =
    Slot.slicesUnbounded _ _ rest ↔ _
  rw [slotLength_of_lt hmillis]
  constructor
  · intro hsame sample hmem
    by_contra hpast
    have hmany : 1 < (Slot.slices longestWhole
        ⟨first.elapsed, first.elapsed, longestWhole, first.bytes⟩ rest).length :=
      Slot.one_lt_length_slices ⟨sample, hmem, Int.not_le.mp hpast⟩
    rw [hsame, Slot.length_slicesUnbounded_of_within fun sample hmem =>
      Int.le_trans (hword sample hmem) hbeyond] at hmany
    exact absurd hmany (Nat.lt_irrefl 1)
  · intro hwithin
    exact Slot.slices_of_within hwithin hrounded

end Unbounded

/-- The limit of a word does not show for slot lengths in the signed range of milliseconds. For
longer ones it shows as soon as a sample behind the first lies past the last whole millisecond. -/
theorem timeSlices_eq_unbounded_iff {samples : List Sample} {millis : Nat}
    (hword : ∀ sample ∈ samples, sample.elapsed ≤ maxSigned64) :
    timeSlices samples millis = timeSlicesUnbounded samples millis ↔
      (millis : Int) ≤ maxSigned64 ∨ ∀ sample ∈ samples.tail, sample.elapsed ≤ longestWhole := by
  cases samples with
  | nil => simp [timeSlices, timeSlicesUnbounded]
  | cons first rest =>
    obtain ⟨-, hrest⟩ := List.forall_mem_cons.mp hword
    rcases le_or_gt (millis : Int) maxSigned64 with hmillis | hmillis
    · exact iff_of_true (timeSlices_of_le hrest hmillis) (.inl hmillis)
    · rw [timeSlices_eq_iff_of_lt hrest hmillis, or_iff_right (Int.not_le.mpr hmillis)]
      rfl

/-- The boundary stops at the end of the range, where the last sample lies. -/
theorem timeSlices_eq_unbounded_iff_saturated :
    let samples : List Sample :=
      [⟨0, 10⟩, ⟨5000000000000000000, 20⟩, ⟨9000000000000000000, 30⟩, ⟨9223372036854775807, 40⟩]
    (∀ sample ∈ samples, sample.elapsed ≤ maxSigned64) ∧
      timeSlices samples 4000000000000 = timeSlicesUnbounded samples 4000000000000 ∧
      (timeSlices samples 4000000000000).length = 3 := by
  intro samples
  have hword : ∀ sample ∈ samples, sample.elapsed ≤ maxSigned64 := by decide
  exact ⟨hword, (timeSlices_eq_unbounded_iff hword).mpr (.inl (by decide)), by decide⟩

/-- A slot of 292 million years ends after 292 years, with a sample in the last millisecond of the
range. -/
theorem not_timeSlices_eq_unbounded_always :
    ¬ ∀ (samples : List Sample) (millis : Nat),
      (∀ sample ∈ samples, minSigned64 ≤ sample.elapsed ∧ sample.elapsed ≤ maxSigned64) →
      1 ≤ millis → millis ≤ maxWord64 →
      timeSlices samples millis = timeSlicesUnbounded samples millis := by
  intro hsame
  let samples : List Sample := [⟨0, 1⟩, ⟨9223372036854775807, 1⟩]
  have hlengths := congrArg List.length
    (hsame samples 9223372036854775808 (by decide) (by decide) (by decide))
  have htwo : (timeSlices samples 9223372036854775808).length = 2 := by decide
  have hone : (timeSlicesUnbounded samples 9223372036854775808).length = 1 := by decide
  rw [htwo, hone] at hlengths
  cases hlengths

end Throughput
