import Throughput.Proofs.Numeric.Sized

/-!
# Quotients

The quotient of two full mantissas has 53 or 54 bits, so a number that is not zero stays so when it
is divided by a finite one, as long as the exponents leave room.
-/

namespace Throughput.Numeric

open Float.Model (Format UnpackedFloat totalExponent)
open Float.Model.UnpackedFloat (Sign divCore accuracyOfFraction)

section Mantissas

variable {mantissa₁ mantissa₂ : Nat} (full₁ : mantissa₁.log2 = 52) (full₂ : mantissa₂.log2 = 52)
include full₁ full₂

theorem divCore_full {exponent₁ exponent₂ : Int}
    (hexponent : -1074 ≤ exponent₁ - exponent₂ - 53) :
    divCore Format.binary64 mantissa₁ exponent₁ mantissa₂ exponent₂ =
      (mantissa₁ * 2 ^ 53 / mantissa₂, exponent₁ - exponent₂ - 53,
        accuracyOfFraction (mantissa₁ * 2 ^ 53 % mantissa₂) mantissa₂) := by
  have htarget : min (exponent₁ - exponent₂) (Format.binary64.targetExponent
      (totalExponent mantissa₁ exponent₁ - totalExponent mantissa₂ exponent₂)) =
        exponent₁ - exponent₂ - 53 := by
    simp only [Format.targetExponent, totalExponent, Format.mantissaBits, Format.minExponent,
      full₁, full₂]
    omega
  have hshift : (exponent₁ - exponent₂ - (exponent₁ - exponent₂ - 53)).toNat = 53 := by omega
  simp only [divCore, htarget, hshift, Nat.shiftLeft_eq]

theorem log2_quotient :
    52 ≤ (mantissa₁ * 2 ^ 53 / mantissa₂).log2 ∧
      (mantissa₁ * 2 ^ 53 / mantissa₂).log2 ≤ 53 := by
  have hpositive : 0 < mantissa₂ := Nat.pos_of_ne_zero (ne_zero_of_log2 full₂)
  have hlow : 2 ^ 52 ≤ mantissa₁ * 2 ^ 53 / mantissa₂ := by
    rw [Nat.le_div_iff_mul_le hpositive]
    exact Nat.mul_le_mul (two_pow_le_of_log2 full₁) (Nat.le_of_lt (lt_two_pow_of_log2 full₂))
  have hhigh : mantissa₁ * 2 ^ 53 / mantissa₂ < 2 ^ 54 := by
    rw [Nat.div_lt_iff_lt_mul hpositive]
    calc mantissa₁ * 2 ^ 53
      _ < 2 ^ 53 * 2 ^ 53 :=
        Nat.mul_lt_mul_of_pos_right (lt_two_pow_of_log2 full₁) (Nat.two_pow_pos 53)
      _ = 2 ^ 54 * 2 ^ 52 := by rw [← Nat.pow_add, ← Nat.pow_add]
      _ ≤ 2 ^ 54 * mantissa₂ := Nat.mul_le_mul_left _ (two_pow_le_of_log2 full₂)
  have hne : mantissa₁ * 2 ^ 53 / mantissa₂ ≠ 0 := by omega
  exact ⟨(Nat.le_log2 hne).mpr hlow, Nat.le_of_lt_succ ((Nat.log2_lt hne).mpr hhigh)⟩

end Mantissas

section Quotient

variable {sign₁ sign₂ : Sign} {least₁ least₂ most₁ most₂ : Int}

theorem Between.div {left right : UnpackedFloat} (hleft : Between sign₁ least₁ most₁ left)
    (hright : Between sign₂ least₂ most₂ right) (hleast : -1074 ≤ least₁ - most₂ - 53) :
    Between (sign₁ / sign₂) (least₁ - most₂ - 53) (most₁ - least₂ - 51)
      (UnpackedFloat.div Format.binary64 left right) := by
  obtain ⟨mantissa₁, exponent₁, positive₁, full₁, large₁, small₁⟩ := hleft
  obtain ⟨mantissa₂, exponent₂, positive₂, full₂, large₂, small₂⟩ := hright
  obtain ⟨hlow, hhigh⟩ := log2_quotient full₁ full₂
  simp only [UnpackedFloat.div, divCore_full full₁ full₂
    (show -1074 ≤ exponent₁ - exponent₂ - 53 by omega)]
  exact between_roundWithAccuracy _ _ hlow hleast (by omega) (by omega)

theorem Normal.div {left right : UnpackedFloat} (hleft : Normal sign₁ least₁ left)
    (hright : Between sign₂ least₂ most₂ right) (hleast : -1074 ≤ least₁ - most₂ - 53) :
    Normal (sign₁ / sign₂) (least₁ - most₂ - 53)
      (UnpackedFloat.div Format.binary64 left right) := by
  rcases hleft.exists_between with rfl | ⟨most₁, hleft⟩
  · cases hright
    exact .infinity
  · exact (hleft.div hright hleast).normal

variable {left right : Float}

theorem Ranged.div (hleft : Ranged sign₁ least₁ most₁ left)
    (hright : Ranged sign₂ least₂ most₂ right) (hleast : -1074 ≤ least₁ - most₂ - 53)
    (hmost : most₁ - least₂ - 51 ≤ 971) :
    Ranged (sign₁ / sign₂) (least₁ - most₂ - 53) (most₁ - least₂ - 51) (left / right) :=
  (Between.div hleft hright hleast).unpack_pack hleast hmost

theorem Sized.div (hleft : Sized sign₁ least₁ left) (hright : Ranged sign₂ least₂ most₂ right)
    (hleast : -1074 ≤ least₁ - most₂ - 53) :
    Sized (sign₁ / sign₂) (least₁ - most₂ - 53) (left / right) :=
  (Normal.div hleft hright hleast).unpack_pack hleast

end Quotient

def isZero : UnpackedFloat → Bool
  | .zero _ => true
  | _ => false

theorem Normal.compare_zero {least : Int} {zero float : UnpackedFloat} (hzero : isZero zero = true)
    (h : Normal .positive least float) : zero.compare float = some .lt := by
  cases zero with
  | zero sign => cases h <;> rfl
  | _ => cases hzero

theorem Sized.pos {least : Int} {float : Float} (h : Sized .positive least float) :
    0.0 < float := by
  have hzero : isZero (0.0 : Float).toModel.unpack = true := by decide +kernel
  have hlt : (0.0 : Float).toModel.unpack.lt float.toModel.unpack = true := by
    rw [UnpackedFloat.lt, Normal.compare_zero hzero h]
    rfl
  exact decide_eq_true hlt

theorem ranged_billion : Ranged .positive (-23) (-23) 1000000000.0 :=
  ranged_of_isWithin (by decide +kernel)

theorem sized_eight : Sized .positive (-49) 8.0 :=
  (@ranged_of_isWithin (-49) (-49) _ (by decide +kernel)).sized

end Throughput.Numeric
