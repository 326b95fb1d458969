import Throughput.Proofs.Numeric.Division
import Throughput.Rate

/-!
# Signs of rates

Samples that bring bytes have a positive rate if they span some time, and none if they all came at
one instant. A span has to stay below the point where its number of nanoseconds is rounded.
-/

namespace Throughput

open Numeric

theorem sized_ofInt_pos {n : Int} (hn : 0 < n) : Sized .positive (-52) (Float.ofInt n) := by
  obtain ⟨n, rfl⟩ := Int.eq_ofNat_of_zero_le (Int.le_of_lt hn)
  exact sized_ofNat (by omega)

theorem ranged_ofInt {n : Int} (hn : 0 < n) (hsmall : n < 2 ^ 53) :
    Ranged .positive (-52) 3 (Float.ofInt n) := by
  obtain ⟨n, rfl⟩ := Int.eq_ofNat_of_zero_le (Int.le_of_lt hn)
  have hne : n ≠ 0 := by omega
  have hlog : n.log2 < 53 := (Nat.log2_lt hne).mpr (by omega)
  exact (ranged_ofNat hne (by omega)).mono (by omega)

theorem bitsPerSecond_of_nonpos {bytes span : Int} (hspan : span ≤ 0) :
    bitsPerSecond bytes span = 0.0 :=
  if_pos hspan

theorem bitsPerSecond_pos {bytes span : Int} (hbytes : 0 < bytes) (hspan : 0 < span)
    (hsmall : span < 2 ^ 53) : 0.0 < bitsPerSecond bytes span := by
  have hbits : Sized .positive (-49) (8.0 * Float.ofInt bytes) :=
    sized_eight.mul (sized_ofInt_pos hbytes) (by decide)
  have hseconds : Ranged .positive (-82) (-25) (Float.ofInt span / 1000000000.0) :=
    (ranged_ofInt hspan hsmall).div ranged_billion (by decide) (by decide)
  have hrate : Sized .positive (-77) (8.0 * Float.ofInt bytes / (Float.ofInt span / 1000000000.0)) :=
    hbits.div hseconds (by decide)
  rw [bitsPerSecond, if_neg (Int.not_le.mpr hspan)]
  exact hrate.pos

theorem zero_not_pos : ¬ (0.0 : Float) < 0.0 := by decide +kernel

theorem byteSum_pos {samples : List Sample} (hsome : samples ≠ [])
    (hbytes : ∀ sample ∈ samples, 0 < sample.bytes) : 0 < byteSum samples := by
  induction samples with
  | nil => exact absurd rfl hsome
  | cons first rest ih =>
    have hfirst := hbytes first List.mem_cons_self
    change 0 < first.bytes + byteSum rest
    by_cases hrest : rest = []
    · subst hrest
      simpa [byteSum] using hfirst
    · have hlater := ih hrest fun sample hmem => hbytes sample (List.mem_cons_of_mem _ hmem)
      omega

section Rate

variable {samples : List Sample} {first last : Sample} (hfirst : samples.head? = some first)
  (hlast : samples.getLast? = some last) (hbytes : ∀ sample ∈ samples, 0 < sample.bytes)
  (horder : first.elapsed ≤ last.elapsed) (hsmall : last.elapsed - first.elapsed < 2 ^ 53)
include hfirst hlast hbytes horder hsmall

theorem rateOf_pos_iff : 0.0 < rateOf samples ↔ first.elapsed < last.elapsed := by
  rw [rateOf_eq hfirst hlast]
  have hsome : samples ≠ [] := by
    rintro rfl
    cases hfirst
  constructor
  · intro hrate
    by_contra hinstant
    rw [bitsPerSecond_of_nonpos (by omega)] at hrate
    exact zero_not_pos hrate
  · intro hspan
    exact bitsPerSecond_pos (byteSum_pos hsome hbytes) (by omega) hsmall

theorem rateOf_eq_zero_iff : rateOf samples = 0.0 ↔ first.elapsed = last.elapsed := by
  have hpos := rateOf_pos_iff hfirst hlast hbytes horder hsmall
  constructor
  · intro hzero
    rw [hzero] at hpos
    have hinstant := mt hpos.mpr zero_not_pos
    omega
  · intro hinstant
    rw [rateOf_eq hfirst hlast, bitsPerSecond_of_nonpos (by omega)]

end Rate

end Throughput
