import Throughput.Proofs.Numeric.Normal

/-!
# Signs of numbers

The sign of a whole number survives its way into a `Float`, and that of a product is the product of
the signs.
-/

namespace Throughput.Numeric

open Float.Model (Format UnpackedFloat)
open Float.Model.UnpackedFloat (Sign)

def Sized (sign : Sign) (least : Int) (float : Float) : Prop :=
  Normal sign least float.toModel.unpack

def Ranged (sign : Sign) (least most : Int) (float : Float) : Prop :=
  Between sign least most float.toModel.unpack

theorem Ranged.sized {sign : Sign} {least most : Int} {float : Float}
    (h : Ranged sign least most float) : Sized sign least float :=
  h.normal

theorem Ranged.mono {sign : Sign} {least most more : Int} {float : Float}
    (h : Ranged sign least most float) (hle : most ≤ more) : Ranged sign least more float := by
  unfold Ranged at h ⊢
  generalize float.toModel.unpack = unpacked at h
  obtain ⟨mantissa, exponent, positive, full, large, small⟩ := h
  exact .finite mantissa exponent positive full large (Int.le_trans small hle)

theorem ranged_toFloat {n : UInt64} (hn : n.toNat ≠ 0) :
    Ranged .positive (-52) (n.toNat.log2 - 51) n.toFloat := by
  have hlog : n.toNat.log2 < 64 := (Nat.log2_lt hn).mpr n.toNat_lt
  exact (between_ofNat hn).unpack_pack (by omega) (by omega)

theorem Ranged.mul {sign₁ sign₂ : Sign} {least₁ least₂ most₁ most₂ : Int} {left right : Float}
    (hleft : Ranged sign₁ least₁ most₁ left) (hright : Ranged sign₂ least₂ most₂ right)
    (hleast : -1074 ≤ least₁ + least₂ + 52) (hmost : most₁ + most₂ + 54 ≤ 971) :
    Ranged (sign₁ * sign₂) (least₁ + least₂ + 52) (most₁ + most₂ + 54) (left * right) :=
  (Between.mul hleft hright hleast).unpack_pack hleast hmost

theorem Sized.mul {sign₁ sign₂ : Sign} {least₁ least₂ : Int} {left right : Float}
    (hleft : Sized sign₁ least₁ left) (hright : Sized sign₂ least₂ right)
    (hleast : -1074 ≤ least₁ + least₂ + 52) :
    Sized (sign₁ * sign₂) (least₁ + least₂ + 52) (left * right) :=
  (Normal.mul hleft hright hleast).unpack_pack hleast

theorem Sized.neg {sign : Sign} {least : Int} {float : Float} (h : Sized sign least float)
    (hleast : -1074 ≤ least) : Sized (-sign) least float.neg :=
  (Normal.neg h).unpack_pack hleast

theorem Sized.lt {least₁ least₂ : Int} {left right : Float}
    (hleft : Sized .negative least₁ left) (hright : Sized .positive least₂ right) :
    left < right := by
  have h : left.toModel.unpack.lt right.toModel.unpack = true := by
    rw [UnpackedFloat.lt, Normal.compare_eq_lt hleft hright]
    rfl
  exact decide_eq_true h

def isWithin (least most : Int) : UnpackedFloat → Bool
  | .finite .positive mantissa exponent _ =>
    mantissa.log2 == 52 && least ≤ exponent && exponent ≤ most
  | _ => false

theorem ranged_of_isWithin {least most : Int} {float : Float}
    (h : isWithin least most float.toModel.unpack = true) :
    Ranged .positive least most float := by
  unfold Ranged
  unfold isWithin at h
  split at h
  · next mantissa exponent positive heq =>
    rw [heq]
    simp only [Bool.and_eq_true, beq_iff_eq, decide_eq_true_eq] at h
    exact .finite mantissa exponent positive h.1.1 h.1.2 h.2
  · simp at h

theorem ranged_one : Ranged .positive (-52) (-52) (Float.ofBits 0x3FF0000000000000) :=
  ranged_of_isWithin (by decide +kernel)

theorem ranged_ofNat {n : Nat} (hn : n ≠ 0) (hsmall : n < 2 ^ 53) :
    Ranged .positive (-52) (n.log2 - 49) (Float.ofNat n) := by
  have hexact : Float.ofNat n = n.toUInt64.toFloat * Float.ofBits 0x3FF0000000000000 := by
    change Float.ofScientific n false 0 = _
    rw [Float.ofScientific, dif_pos ⟨hsmall, by decide⟩]
    rfl
  have hword : n.toUInt64.toNat = n := by
    simp [Nat.toUInt64]
    omega
  have hfloat := @ranged_toFloat n.toUInt64 (by rwa [hword])
  have hlog : n.log2 < 53 := (Nat.log2_lt hn).mpr hsmall
  rw [hword] at hfloat
  rw [hexact]
  have hproduct := hfloat.mul ranged_one (by decide) (by omega)
  have hmost : (n.log2 : Int) - 51 + -52 + 54 = n.log2 - 49 := by omega
  rwa [hmost] at hproduct

theorem sized_ofNat {n : Nat} (hn : n ≠ 0) : Sized .positive (-52) (Float.ofNat n) := by
  by_cases hsmall : n < 2 ^ 53
  · exact (ranged_ofNat hn hsmall).sized
  · have hmodel : Float.ofNat n = .ofModel (.ofScientific n 0) := by
      change Float.ofScientific n false 0 = _
      rw [Float.ofScientific, dif_neg (by omega)]
      rfl
    rw [hmodel]
    exact (normal_ofScientific hn).unpack_pack (by decide)

theorem sized_ofInt {n : Int} (hn : n < 0) : Sized .negative (-52) (Float.ofInt n) := by
  cases n with
  | ofNat n => exact absurd hn (Int.not_lt.2 (Int.natCast_nonneg n))
  | negSucc n => exact (sized_ofNat (Nat.succ_ne_zero n)).neg (by decide)

theorem sized_million : Sized .positive (-52) 1000000.0 :=
  (@ranged_of_isWithin (-52) 0 _ (by decide +kernel)).sized

theorem sized_threeQuarters : Sized .positive (-53) 0.75 :=
  (@ranged_of_isWithin (-53) 0 _ (by decide +kernel)).sized

end Throughput.Numeric
