import Mathlib.Algebra.BigOperators.Group.List.Basic
import Mathlib.Tactic.Linarith
import Throughput.Rate

/-!
# Time slots

Where the samples of a worker are cut into slots. A slot ends in front of the first sample that lies
past its boundary, so the slots between the cuts take up every sample once, and all the time from
the first sample to the last. From the third slot on, and from the second one unless the first
sample comes late, a slot spans some time.
-/

namespace Throughput

open Numeric

/-- The samples that lie past the boundary of their slot, by their positions from `position` on. The
boundary then moves on by one slot length, or to the sample if that is later still. -/
def cutsFrom (length boundary : Int) (position : Nat) : List Sample → List Nat
  | [] => []
  | sample :: rest =>
    if boundary < sample.elapsed then
      position :: cutsFrom length (max (boundary + length) sample.elapsed) (position + 1) rest
    else
      cutsFrom length boundary (position + 1) rest

/-- The positions at which a new slot begins. The first sample opens a slot wherever it lies. -/
def cuts (length : Int) (samples : List Sample) : List Nat :=
  cutsFrom length length 1 samples.tail

def timeAt (samples : List Sample) (position : Nat) : Int :=
  samples[position]?.elim 0 Sample.elapsed

/-- A slot by the position of its first sample and the position behind its last one. -/
structure Stretch where
  start : Nat
  stop : Nat
  deriving DecidableEq, Repr

namespace Stretch

/-- The slots from one position to another, with cuts between them. -/
def between (start : Nat) (cuts : List Nat) (stop : Nat) : List Stretch :=
  List.zipWith mk (start :: cuts) (cuts ++ [stop])

def ofSamples (length : Int) (samples : List Sample) : List Stretch :=
  between 0 (cuts length samples) samples.length

def part (stretch : Stretch) (samples : List Sample) : List Sample :=
  (samples.drop stretch.start).take (stretch.stop - stretch.start)

/-- The time from the last sample of the slot before, if there is one, to the last of this slot. -/
def span (stretch : Stretch) (samples : List Sample) : Int :=
  timeAt samples (stretch.stop - 1) - timeAt samples (stretch.start - 1)

def rate (stretch : Stretch) (samples : List Sample) : Float :=
  bitsPerSecond (byteSum (stretch.part samples)) (stretch.span samples)

theorem between_nil (start stop : Nat) : between start [] stop = [⟨start, stop⟩] :=
  rfl

theorem between_cons (start cut stop : Nat) (cuts : List Nat) :
    between start (cut :: cuts) stop = ⟨start, cut⟩ :: between cut cuts stop :=
  rfl

theorem length_between (start stop : Nat) (cuts : List Nat) :
    (between start cuts stop).length = cuts.length + 1 := by
  simp [between]

end Stretch

/-! ### Cuts -/

section Cuts

variable {length boundary : Int} {position : Nat} {rest : List Sample}

theorem length_cutsFrom_le : (cutsFrom length boundary position rest).length ≤ rest.length := by
  induction rest generalizing boundary position with
  | nil => exact Nat.le_refl 0
  | cons sample rest ih =>
    rw [cutsFrom]
    split
    · exact Nat.succ_le_succ ih
    · exact Nat.le_succ_of_le ih

/-- The cuts lie in order behind what is before them, and in front of the end. -/
theorem pairwise_cutsFrom {start stop : Nat} (hstart : start < position)
    (hstop : position + rest.length = stop) :
    (start :: (cutsFrom length boundary position rest ++ [stop])).Pairwise (· < ·) := by
  induction rest generalizing boundary position start with
  | nil => simpa [cutsFrom, ← hstop] using hstart
  | cons sample rest ih =>
    have hnext : position + 1 + rest.length = stop := by
      rw [← hstop, List.length_cons]
      omega
    rw [cutsFrom]
    split
    · have hlater : (position :: (cutsFrom length (max (boundary + length) sample.elapsed)
          (position + 1) rest ++ [stop])).Pairwise (· < ·) := ih (Nat.lt_succ_self position) hnext
      refine List.pairwise_cons.mpr ⟨?_, hlater⟩
      intro cut hmem
      rcases List.mem_cons.mp hmem with rfl | hmem
      · exact hstart
      · exact Nat.lt_trans hstart (List.rel_of_pairwise_cons hlater hmem)
    · exact ih (Nat.lt_succ_of_lt hstart) hnext

/-- Each cut but the first has waited for one more slot length. -/
theorem exists_beyond_cutsFrom (hcut : cutsFrom length boundary position rest ≠ []) :
    ∃ sample ∈ rest,
      boundary + ((cutsFrom length boundary position rest).length - 1 : Int) * length <
        sample.elapsed := by
  induction rest generalizing boundary position with
  | nil => exact absurd rfl hcut
  | cons sample rest ih =>
    rw [cutsFrom] at hcut ⊢
    split
    · next hpast =>
      by_cases hlast :
          cutsFrom length (max (boundary + length) sample.elapsed) (position + 1) rest = []
      · refine ⟨sample, List.mem_cons_self, ?_⟩
        simpa [hlast] using hpast
      · obtain ⟨later, hmem, hbeyond⟩ := ih hlast
        refine ⟨later, List.mem_cons_of_mem _ hmem, ?_⟩
        have hmoved := le_max_left (boundary + length) sample.elapsed
        rw [List.length_cons]
        push_cast
        linarith
    · next hwithin =>
      rw [if_neg hwithin] at hcut
      obtain ⟨later, hmem, hbeyond⟩ := ih hcut
      exact ⟨later, List.mem_cons_of_mem _ hmem, hbeyond⟩

end Cuts

theorem timeAt_of_drop {samples rest : List Sample} {position : Nat} {sample : Sample}
    (hrest : samples.drop position = sample :: rest) :
    timeAt samples position = sample.elapsed := by
  have hat : samples[position]? = some sample := by
    rw [← List.head?_drop, hrest, List.head?_cons]
  rw [timeAt, hat, Option.elim_some]

theorem drop_succ_of_drop {samples rest : List Sample} {position : Nat} {sample : Sample}
    (hrest : samples.drop position = sample :: rest) : samples.drop (position + 1) = rest := by
  rw [← List.tail_drop, hrest, List.tail_cons]

/-- Once the boundary has caught up with the samples, there is a gap in front of every cut. -/
theorem gap_of_mem_cutsFrom {samples rest : List Sample} {length boundary : Int}
    {position cut : Nat} (hrest : samples.drop position = rest)
    (hpast : timeAt samples (position - 1) ≤ boundary)
    (hmem : cut ∈ cutsFrom length boundary position rest) :
    timeAt samples (cut - 1) < timeAt samples cut := by
  induction rest generalizing boundary position with
  | nil => cases hmem
  | cons sample rest ih =>
    have htime := timeAt_of_drop hrest
    have hnext := drop_succ_of_drop hrest
    rw [cutsFrom] at hmem
    split at hmem
    · next hbeyond =>
      rcases List.mem_cons.mp hmem with rfl | hlater
      · omega
      · exact ih hnext (htime.trans_le (le_max_right _ _)) hlater
    · next hwithin => exact ih hnext (htime.trans_le (Int.not_lt.mp hwithin)) hmem

/-- The first sample may lie past the first boundary, but then the boundary catches up with the
first cut. -/
theorem gap_of_mem_tail_cutsFrom {samples rest : List Sample} {length boundary : Int}
    {position cut : Nat} (hrest : samples.drop position = rest)
    (hmem : cut ∈ (cutsFrom length boundary position rest).tail) :
    timeAt samples (cut - 1) < timeAt samples cut := by
  cases rest with
  | nil => cases hmem
  | cons sample rest =>
    have htime := timeAt_of_drop hrest
    have hnext := drop_succ_of_drop hrest
    rw [cutsFrom] at hmem
    split at hmem
    · exact gap_of_mem_cutsFrom hnext (htime.trans_le (le_max_right _ _)) hmem
    · next hwithin =>
      exact gap_of_mem_cutsFrom hnext (htime.trans_le (Int.not_lt.mp hwithin))
        (List.mem_of_mem_tail hmem)

/-! ### Slots between cuts -/

namespace Stretch

section Between

variable {start stop : Nat} {cuts : List Nat}
  (hcuts : (start :: (cuts ++ [stop])).Pairwise (· < ·))
include hcuts

theorem start_lt_stop : start < stop :=
  List.rel_of_pairwise_cons hcuts (List.mem_append_right cuts List.mem_cons_self)

theorem proper_of_mem_between {stretch : Stretch} (hmem : stretch ∈ between start cuts stop) :
    stretch.start ∈ start :: cuts ∧ stretch.start < stretch.stop ∧ stretch.stop ≤ stop := by
  induction cuts generalizing start with
  | nil =>
    rw [between_nil, List.mem_singleton] at hmem
    subst hmem
    exact ⟨List.mem_cons_self, start_lt_stop hcuts, Nat.le_refl stop⟩
  | cons cut cuts ih =>
    have hlater := hcuts.tail
    rw [between_cons] at hmem
    rcases List.mem_cons.mp hmem with rfl | hmem
    · exact ⟨List.mem_cons_self, List.rel_of_pairwise_cons hcuts List.mem_cons_self,
        Nat.le_of_lt (start_lt_stop hlater)⟩
    · obtain ⟨hstart, hproper⟩ := ih hlater hmem
      exact ⟨List.mem_cons_of_mem start hstart, hproper⟩

/-- No sample is left out, and none is in two slots. -/
theorem flatten_between (samples : List Sample) :
    ((between start cuts stop).map (part · samples)).flatten = part ⟨start, stop⟩ samples := by
  induction cuts generalizing start with
  | nil => simp [between_nil]
  | cons cut cuts ih =>
    have hlater := hcuts.tail
    have hfirst : start < cut := List.rel_of_pairwise_cons hcuts List.mem_cons_self
    have hlast : cut < stop := start_lt_stop hlater
    have hwhole : stop - start = (cut - start) + (stop - cut) := by omega
    rw [between_cons, List.map_cons, List.flatten_cons, ih hlater]
    simp only [part]
    rw [hwhole, List.take_add, List.drop_drop, Nat.add_sub_cancel' (Nat.le_of_lt hfirst)]

end Between

/-- The end of each slot is where the next one counts from. -/
theorem sum_span_between (samples : List Sample) (start stop : Nat) (cuts : List Nat) :
    ((between start cuts stop).map (span · samples)).sum = span ⟨start, stop⟩ samples := by
  induction cuts generalizing start with
  | nil => simp [between_nil]
  | cons cut cuts ih =>
    rw [between_cons, List.map_cons, List.sum_cons, ih]
    simp only [span]
    omega

end Stretch

theorem byteSum_flatten (parts : List (List Sample)) :
    byteSum parts.flatten = (parts.map byteSum).sum := by
  induction parts with
  | nil => rfl
  | cons part parts ih => rw [List.flatten_cons, byteSum_append, ih, List.map_cons, List.sum_cons]

/-! ### Slots that are being filled -/

/-- What a slot knows at a position: it holds the samples since `start`. Its boundary is the one of
the cuts, as far as that fits into a signed word. -/
structure Slot.Holds (slot : Slot) (samples : List Sample) (start position : Nat)
    (boundary : Int) : Prop where
  begun : start < position
  origin : slot.origin = timeAt samples (start - 1)
  last : slot.last = timeAt samples (position - 1)
  bytes : slot.bytes = byteSum (Stretch.part ⟨start, position⟩ samples)
  limit : slot.boundary = min maxSigned64 boundary
  ahead : 0 ≤ boundary

namespace Slot.Holds

variable {slot : Slot} {samples rest : List Sample} {start position : Nat} {boundary length : Int}
  (h : slot.Holds samples start position boundary)
include h

theorem rate_eq : slot.rate = Stretch.rate ⟨start, position⟩ samples := by
  rw [Slot.rate, Stretch.rate, Stretch.span, h.origin, h.last, h.bytes]

theorem add {sample : Sample} (hrest : samples.drop position = sample :: rest) :
    (slot.add sample).Holds samples start (position + 1) boundary where
  begun := Nat.lt_succ_of_lt h.begun
  origin := h.origin
  last := (timeAt_of_drop hrest).symm
  bytes := by
    have hmore : position + 1 - start = (position - start) + 1 :=
      Nat.succ_sub (Nat.le_of_lt h.begun)
    have hat : (samples.drop start)[position - start]? = some sample := by
      rw [List.getElem?_drop, Nat.add_sub_cancel' (Nat.le_of_lt h.begun), ← List.head?_drop, hrest,
        List.head?_cons]
    rw [Stretch.part, hmore, List.take_add_one, hat, Option.toList_some, byteSum_append]
    simpa [Slot.add, byteSum, Stretch.part] using h.bytes
  limit := h.limit
  ahead := h.ahead

/-- Where the boundary would leave the word, it stops at the end of it, and no sample lies past
that. -/
theorem next {sample : Sample} (hrest : samples.drop position = sample :: rest)
    (hlength : 0 ≤ length) (hword : sample.elapsed ≤ maxSigned64) :
    (slot.next (min maxSigned64 length) sample).Holds samples position (position + 1)
      (max (boundary + length) sample.elapsed) where
  begun := Nat.lt_succ_self position
  origin := h.last
  last := (timeAt_of_drop hrest).symm
  bytes := by
    simp [Slot.next, Stretch.part, hrest, byteSum]
  limit := by
    have hahead := h.ahead
    simp only [Slot.next, h.limit, clampSigned64, minSigned64, maxSigned64] at hword ⊢
    omega
  ahead := le_max_of_le_left (Int.add_nonneg h.ahead hlength)

theorem slices_eq (hrest : samples.drop position = rest) (hposition : position ≤ samples.length)
    (hlength : 0 ≤ length) (hword : ∀ sample ∈ rest, sample.elapsed ≤ maxSigned64) :
    Slot.slices (min maxSigned64 length) slot rest =
      (Stretch.between start (cutsFrom length boundary position rest) samples.length).map
        (Stretch.rate · samples) := by
  induction rest generalizing slot start position boundary with
  | nil =>
    have hend : position = samples.length :=
      Nat.le_antisymm hposition (List.drop_eq_nil_iff.mp hrest)
    rw [Slot.slices, h.rate_eq, hend]
    rfl
  | cons sample rest ih =>
    have hsample := hword sample List.mem_cons_self
    have hlater : ∀ later ∈ rest, later.elapsed ≤ maxSigned64 :=
      fun later hmem => hword later (List.mem_cons_of_mem sample hmem)
    have hnext := drop_succ_of_drop hrest
    have hinside : position + 1 ≤ samples.length := by
      have hlen := congrArg List.length hrest
      rw [List.length_drop, List.length_cons] at hlen
      omega
    have hpast : slot.boundary < sample.elapsed ↔ boundary < sample.elapsed := by
      rw [h.limit]
      omega
    simp only [Slot.slices, cutsFrom, hpast]
    split
    · rw [h.rate_eq, ih (h.next hrest hlength hsample) hnext hinside hlater, Stretch.between_cons,
        List.map_cons]
    · exact ih (h.add hrest) hnext hinside hlater

end Slot.Holds

theorem slotLength_eq {millis : Nat} (hmillis : (millis : Int) ≤ maxSigned64) :
    slotLength millis = min maxSigned64 (Span.ofMillis millis) := by
  rw [slotLength, if_pos hmillis]
  simp only [clampSigned64, minSigned64, maxSigned64, Span.ofMillis, nanosPerMilli]
  push_cast
  omega

/-- The slots of the samples are those between their cuts. -/
theorem timeSlices_eq {samples : List Sample} {millis : Nat} (hsome : samples ≠ [])
    (hmillis : (millis : Int) ≤ maxSigned64)
    (hword : ∀ sample ∈ samples, sample.elapsed ≤ maxSigned64) :
    timeSlices samples millis =
      (Stretch.ofSamples (Span.ofMillis millis) samples).map (Stretch.rate · samples) := by
  obtain ⟨first, rest, rfl⟩ := List.exists_cons_of_ne_nil hsome
  have hstart : Slot.Holds ⟨first.elapsed, first.elapsed, slotLength millis, first.bytes⟩
      (first :: rest) 0 1 (Span.ofMillis millis) :=
    { begun := Nat.one_pos
      origin := rfl
      last := rfl
      bytes := by simp [Stretch.part, byteSum]
      limit := slotLength_eq hmillis
      ahead := Int.natCast_nonneg _ }
  change Slot.slices (slotLength millis) _ rest = _
  rw [slotLength_eq hmillis] at hstart ⊢
  exact hstart.slices_eq rfl (by simp) (Int.natCast_nonneg _)
    fun sample hmem => hword sample (List.mem_cons_of_mem first hmem)

theorem pairwise_cuts {samples : List Sample} (hsome : samples ≠ []) (length : Int) :
    (0 :: (cuts length samples ++ [samples.length])).Pairwise (· < ·) := by
  obtain ⟨first, rest, rfl⟩ := List.exists_cons_of_ne_nil hsome
  exact pairwise_cutsFrom Nat.one_pos (Nat.add_comm 1 rest.length)

theorem timeAt_zero {samples : List Sample} (hsome : samples ≠ []) :
    timeAt samples 0 = (samples.head hsome).elapsed := by
  rw [timeAt, ← List.head?_eq_getElem?, List.head?_eq_some_head hsome, Option.elim_some]

theorem timeAt_last {samples : List Sample} (hsome : samples ≠ []) :
    timeAt samples (samples.length - 1) = (samples.getLast hsome).elapsed := by
  rw [timeAt, ← List.getLast?_eq_getElem?, List.getLast?_eq_some_getLast hsome, Option.elim_some]

/-- The time slices of a worker share out its samples, and its time from the first sample to the
last: nothing is left out, nothing is counted twice, and no slot is empty. -/
theorem timeSlices_partition {samples : List Sample} {millis : Nat} (hsome : samples ≠ [])
    (hmillis : (millis : Int) ≤ maxSigned64)
    (hword : ∀ sample ∈ samples, sample.elapsed ≤ maxSigned64) :
    let length : Int := Span.ofMillis millis
    let slots := Stretch.ofSamples length samples
    timeSlices samples millis = slots.map (Stretch.rate · samples) ∧
      slots.length = (cuts length samples).length + 1 ∧
      (0 :: (cuts length samples ++ [samples.length])).Pairwise (· < ·) ∧
      (slots.map (Stretch.part · samples)).flatten = samples ∧
      (∀ slot ∈ slots, slot.part samples ≠ []) ∧
      (slots.map fun slot => byteSum (slot.part samples)).sum = byteSum samples ∧
      (slots.map (Stretch.span · samples)).sum =
        (samples.getLast hsome).elapsed - (samples.head hsome).elapsed := by
  intro length slots
  have hcuts := pairwise_cuts hsome length
  have hparts : (slots.map (Stretch.part · samples)).flatten = samples := by
    calc (slots.map (Stretch.part · samples)).flatten
        = Stretch.part ⟨0, samples.length⟩ samples := Stretch.flatten_between hcuts samples
      _ = samples := by rw [Stretch.part, List.drop_zero, Nat.sub_zero, List.take_length]
  refine ⟨timeSlices_eq hsome hmillis hword, Stretch.length_between _ _ _, hcuts, hparts,
    ?_, ?_, ?_⟩
  · intro slot hmem hnone
    obtain ⟨-, hproper, hstop⟩ := Stretch.proper_of_mem_between hcuts hmem
    have hlen := congrArg List.length hnone
    rw [Stretch.part, List.length_take, List.length_drop, List.length_nil] at hlen
    omega
  · calc (slots.map fun slot => byteSum (slot.part samples)).sum
        = ((slots.map (Stretch.part · samples)).map byteSum).sum := by
          rw [List.map_map]
          rfl
      _ = byteSum samples := by rw [← byteSum_flatten, hparts]
  · calc (slots.map (Stretch.span · samples)).sum
        = Stretch.span ⟨0, samples.length⟩ samples := Stretch.sum_span_between _ _ _ _
      _ = (samples.getLast hsome).elapsed - (samples.head hsome).elapsed := by
        simp only [Stretch.span, Nat.zero_sub, timeAt_last hsome, timeAt_zero hsome]

/-- After the third sample the line is silent for two seconds. The next one opens a slot in which it
stays alone. -/
theorem timeSlices_partition_gap :
    let samples : List Sample :=
      [.ofMillis 0 100, .ofMillis 400 200, .ofMillis 400 100, .ofMillis 2600 300, .ofMillis 2700 50]
    let slots : List Stretch := [⟨0, 3⟩, ⟨3, 4⟩, ⟨4, 5⟩]
    (samples ≠ [] ∧ ((500 : Nat) : Int) ≤ maxSigned64 ∧
        ∀ sample ∈ samples, sample.elapsed ≤ maxSigned64) ∧
      timeSlices samples 500 = slots.map (Stretch.rate · samples) ∧
      (slots.map fun slot => byteSum (slot.part samples)) = [400, 300, 50] ∧
      (slots.map (Stretch.span · samples)).sum = 2700000000 := by
  intro samples slots
  have hslots : Stretch.ofSamples 500000000 samples = slots := by decide
  obtain ⟨hrates, -, -, -, -, -, hspan⟩ :=
    @timeSlices_partition samples 500 (by decide) (by decide) (by decide)
  change timeSlices samples 500 = (Stretch.ofSamples 500000000 samples).map _ at hrates
  change ((Stretch.ofSamples 500000000 samples).map _).sum = 2700000000 at hspan
  rw [hslots] at hrates hspan
  exact ⟨by decide, hrates, by decide, hspan⟩

/-! ### Slots that span some time -/

theorem timeAt_mono {samples : List Sample}
    (horder : samples.Pairwise fun left right => left.elapsed ≤ right.elapsed) {i j : Nat}
    (hle : i ≤ j) (hj : j < samples.length) : timeAt samples i ≤ timeAt samples j := by
  rcases Nat.eq_or_lt_of_le hle with rfl | hlt
  · exact le_refl _
  · have hi := Nat.lt_trans hlt hj
    rw [timeAt, timeAt, List.getElem?_eq_getElem hi, List.getElem?_eq_getElem hj]
    exact List.pairwise_iff_getElem.mp horder i j hi hj hlt

theorem elapsed_le_getLast {samples : List Sample} {sample : Sample} (hsome : samples ≠ [])
    (horder : samples.Pairwise fun left right => left.elapsed ≤ right.elapsed)
    (hmem : sample ∈ samples) : sample.elapsed ≤ (samples.getLast hsome).elapsed := by
  obtain ⟨i, hi, rfl⟩ := List.getElem_of_mem hmem
  have hlast : samples.length - 1 < samples.length :=
    Nat.sub_one_lt (List.length_pos_of_ne_nil hsome).ne'
  have hmono := timeAt_mono horder (Nat.le_sub_one_of_lt hi) hlast
  rw [timeAt_last hsome, timeAt, List.getElem?_eq_getElem hi] at hmono
  exact hmono

namespace Stretch

theorem start_mem_of_mem_tail {start stop : Nat} {cuts : List Nat}
    (hcuts : (start :: (cuts ++ [stop])).Pairwise (· < ·)) {stretch : Stretch}
    (hmem : stretch ∈ (between start cuts stop).tail) : stretch.start ∈ cuts := by
  cases cuts with
  | nil => cases hmem
  | cons cut cuts => exact (proper_of_mem_between hcuts.tail hmem).1

theorem start_mem_of_mem_drop {start stop : Nat} {cuts : List Nat}
    (hcuts : (start :: (cuts ++ [stop])).Pairwise (· < ·)) {stretch : Stretch}
    (hmem : stretch ∈ (between start cuts stop).drop 2) : stretch.start ∈ cuts.tail := by
  cases cuts with
  | nil => cases hmem
  | cons cut cuts =>
    rw [between_cons, List.drop_succ_cons, List.drop_one] at hmem
    exact start_mem_of_mem_tail hcuts.tail hmem

/-- A slot that some time has passed over is rated by the division. -/
def Timed (stretch : Stretch) (samples : List Sample) : Prop :=
  0 < stretch.span samples ∧
    stretch.rate samples =
      (8.0 * Float.ofInt (byteSum (stretch.part samples))) /
        (Float.ofInt (stretch.span samples) / 1000000000.0)

/-- A gap in front of a slot is part of its span. -/
theorem timed_of_gap {samples : List Sample}
    (horder : samples.Pairwise fun left right => left.elapsed ≤ right.elapsed) {stretch : Stretch}
    (hproper : stretch.start < stretch.stop) (hstop : stretch.stop ≤ samples.length)
    (hgap : timeAt samples (stretch.start - 1) < timeAt samples stretch.start) :
    stretch.Timed samples := by
  have hlast : timeAt samples stretch.start ≤ timeAt samples (stretch.stop - 1) :=
    timeAt_mono horder (by omega) (by omega)
  have hspan : 0 < stretch.span samples := by
    rw [span]
    omega
  exact ⟨hspan, if_neg (Int.not_le.mpr hspan)⟩

end Stretch

/-- There are no more slots than the time has room for, nor more than there are samples. A slot
behind the first spans some time, unless it is the second one and the first sample comes after the
first boundary. -/
theorem timeSlices_timed {samples : List Sample} {millis : Nat} (hsome : samples ≠ [])
    (hmillis : (millis : Int) ≤ maxSigned64)
    (hword : ∀ sample ∈ samples, sample.elapsed ≤ maxSigned64)
    (horder : samples.Pairwise fun left right => left.elapsed ≤ right.elapsed) :
    let length : Int := Span.ofMillis millis
    let count := (timeSlices samples millis).length
    let slots := Stretch.ofSamples length samples
    (1 < count → (count - 1 : Int) * length < (samples.getLast hsome).elapsed) ∧
      count ≤ samples.length ∧
      timeSlices samples millis = slots.map (Stretch.rate · samples) ∧
      (∀ slot ∈ slots.drop 2, slot.Timed samples) ∧
      ((samples.head hsome).elapsed ≤ length → ∀ slot ∈ slots.drop 1, slot.Timed samples) := by
  intro length count slots
  have hrates := timeSlices_eq hsome hmillis hword
  have hcuts := pairwise_cuts hsome length
  have hcount : count = (cuts length samples).length + 1 := by
    rw [show count = slots.length from (congrArg List.length hrates).trans (List.length_map _)]
    exact Stretch.length_between _ _ _
  have hrest : samples.drop 1 = samples.tail := List.drop_one
  refine ⟨?_, ?_, hrates, ?_, ?_⟩
  · intro hmany
    have hcut : cuts length samples ≠ [] := by
      intro hnone
      rw [hcount, hnone] at hmany
      exact absurd hmany (by decide)
    obtain ⟨sample, hmem, hbeyond⟩ := exists_beyond_cutsFrom hcut
    have hlast := elapsed_le_getLast hsome horder (List.mem_of_mem_tail hmem)
    change length + ((cuts length samples).length - 1 : Int) * length < _ at hbeyond
    rw [hcount]
    push_cast
    linarith
  · have hfew : (cuts length samples).length ≤ samples.tail.length := length_cutsFrom_le
    have hpos := List.length_pos_of_ne_nil hsome
    rw [List.length_tail] at hfew
    omega
  · intro slot hmem
    obtain ⟨-, hproper, hstop⟩ :=
      Stretch.proper_of_mem_between hcuts (List.mem_of_mem_drop hmem)
    exact Stretch.timed_of_gap horder hproper hstop
      (gap_of_mem_tail_cutsFrom hrest (Stretch.start_mem_of_mem_drop hcuts hmem))
  · intro hearly slot hmem
    obtain ⟨-, hproper, hstop⟩ :=
      Stretch.proper_of_mem_between hcuts (List.mem_of_mem_drop hmem)
    have hpast : timeAt samples (1 - 1) ≤ length := (timeAt_zero hsome).trans_le hearly
    exact Stretch.timed_of_gap horder hproper hstop
      (gap_of_mem_cutsFrom hrest hpast
        (Stretch.start_mem_of_mem_tail hcuts (by rwa [← List.drop_one])))

/-- Two samples on one instant past a boundary stay together, and their slot counts from the sample
before. -/
theorem timeSlices_timed_gap :
    let samples : List Sample :=
      [.ofMillis 100 10, .ofMillis 400 20, .ofMillis 2600 30, .ofMillis 2600 40, .ofMillis 2700 50]
    (samples ≠ [] ∧ ((500 : Nat) : Int) ≤ maxSigned64 ∧
        (∀ sample ∈ samples, sample.elapsed ≤ maxSigned64) ∧
        samples.Pairwise fun left right => left.elapsed ≤ right.elapsed) ∧
      (timeSlices samples 500).length = 3 ∧ (3 - 1 : Int) * 500000000 < 2700000000 ∧
      ∀ slot ∈ [(⟨2, 4⟩ : Stretch), ⟨4, 5⟩], slot.Timed samples := by
  intro samples
  have hslots : Stretch.ofSamples 500000000 samples = [⟨0, 2⟩, ⟨2, 4⟩, ⟨4, 5⟩] := by decide
  obtain ⟨hroom, -, hrates, -, htimed⟩ :=
    @timeSlices_timed samples 500 (by decide) (by decide) (by decide) (by decide)
  have hlength : (timeSlices samples 500).length = 3 := by
    rw [hrates, List.length_map]
    change (Stretch.ofSamples 500000000 samples).length = 3
    rw [hslots]
    rfl
  rw [hlength] at hroom
  have hearly := htimed (by decide)
  change ∀ slot ∈ (Stretch.ofSamples 500000000 samples).drop 1, _ at hearly
  rw [hslots] at hearly
  exact ⟨by decide, hlength, hroom (by decide), hearly⟩

/-- The second slot of a worker whose first sample comes late may span no time. -/
example :
    (Stretch.ofSamples 500 [⟨600, 1⟩, ⟨600, 1⟩]).map (Stretch.span · [⟨600, 1⟩, ⟨600, 1⟩]) =
      [0, 0] := by
  decide

end Throughput
