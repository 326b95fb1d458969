import Mathlib

/-!
# Normal numbers

Floats that are neither zero nor too small for a full mantissa. Rounding, products and a trip
through the packed bits keep them so, and keep their sign.
-/

namespace Throughput.Numeric

open Float.Model (Format UnpackedFloat totalExponent)
open Float.Model.UnpackedFloat (Sign Accuracy ExtendedMantissa packComponents packedInfinity
  roundWithAccuracy shiftToExponent shiftToTargetExponent unpackSign unpackExponent_packComponents
  unpackMantissa_packComponents)

/-- A float of sign `sign` that is not zero: an infinity, or a full mantissa of 53 bits with an
exponent of at least `least`. -/
inductive Normal (sign : Sign) (least : Int) : UnpackedFloat → Prop
  | infinity : Normal sign least (.infinity sign)
  | finite (mantissa : Nat) (exponent : Int) (positive : 0 < mantissa)
      (full : mantissa.log2 = 52) (large : least ≤ exponent) :
      Normal sign least (.finite sign mantissa exponent positive)

/-- A float of sign `sign` with a full mantissa and an exponent from `least` to `most`. -/
inductive Between (sign : Sign) (least most : Int) : UnpackedFloat → Prop
  | finite (mantissa : Nat) (exponent : Int) (positive : 0 < mantissa)
      (full : mantissa.log2 = 52) (large : least ≤ exponent) (small : exponent ≤ most) :
      Between sign least most (.finite sign mantissa exponent positive)

theorem Between.normal {sign : Sign} {least most : Int} {float : UnpackedFloat}
    (h : Between sign least most float) : Normal sign least float := by
  obtain ⟨mantissa, exponent, positive, full, large, -⟩ := h
  exact .finite mantissa exponent positive full large

theorem log2_div_two_pow {n count : Nat} (hcount : count ≤ n.log2) :
    (n / 2 ^ count).log2 = n.log2 - count := by
  induction count with
  | zero => simp
  | succ count ih =>
    have hlog : (n / 2 ^ count).log2 = n.log2 - count := ih (by omega)
    have hstep := Nat.log2_def (n / 2 ^ count)
    by_cases htwo : 2 ≤ n / 2 ^ count
    · rw [if_pos htwo, Nat.div_div_eq_div_mul, ← Nat.pow_add_one, hlog] at hstep
      omega
    · rw [if_neg htwo] at hstep
      omega

theorem log2_mul_two_pow {n : Nat} (hn : n ≠ 0) (count : Nat) :
    (n * 2 ^ count).log2 = n.log2 + count := by
  induction count with
  | zero => simp
  | succ count ih =>
    have hne : n * 2 ^ count ≠ 0 := Nat.mul_ne_zero hn (Nat.ne_of_gt (Nat.two_pow_pos count))
    rw [Nat.pow_succ, ← Nat.mul_assoc, Nat.mul_comm, Nat.log2_two_mul hne, ih, Nat.add_assoc]

theorem mantissa_shiftRight (extended : ExtendedMantissa) (count : Nat) :
    (extended >>> count).mantissa = extended.mantissa / 2 ^ count := by
  induction count with
  | zero => exact (Nat.div_one _).symm
  | succ count ih =>
    calc (extended >>> (count + 1)).mantissa
      _ = (extended >>> count).mantissa / 2 := rfl
      _ = extended.mantissa / 2 ^ (count + 1) := by
        rw [ih, Nat.div_div_eq_div_mul, Nat.pow_succ]

theorem le_roundedMantissa (extended : ExtendedMantissa) :
    extended.mantissa ≤ extended.roundedMantissa := by
  unfold ExtendedMantissa.roundedMantissa
  cases extended.accuracy with
  | exact => exact Nat.le_refl _
  | inexact order => cases order <;> simp [Accuracy.roundToNearestEven]

theorem roundedMantissa_le (extended : ExtendedMantissa) :
    extended.roundedMantissa ≤ extended.mantissa + 1 := by
  unfold ExtendedMantissa.roundedMantissa
  cases extended.accuracy with
  | exact => exact Nat.le_succ _
  | inexact order =>
    cases order <;> simp [Accuracy.roundToNearestEven]
    omega

theorem mantissa_ofMantissaAndAccuracy (mantissa : Nat) (accuracy : Accuracy) :
    (ExtendedMantissa.ofMantissaAndAccuracy mantissa accuracy).mantissa = mantissa := by
  cases accuracy with
  | exact => rfl
  | inexact order => cases order <;> rfl

theorem targetExponent_eq {mantissa : Nat} {exponent : Int}
    (hexponent : -1074 ≤ exponent + (mantissa.log2 - 52)) :
    Format.binary64.targetExponent (totalExponent mantissa exponent)
      = exponent + (mantissa.log2 - 52) := by
  simp only [Format.targetExponent, totalExponent, Format.mantissaBits, Format.minExponent]
  omega

theorem shiftToTargetExponent_full {mantissa : Nat} {exponent : Int} (accuracy : Accuracy)
    (hlog : 52 ≤ mantissa.log2) (hexponent : -1074 ≤ exponent + (mantissa.log2 - 52)) :
    (shiftToTargetExponent Format.binary64 mantissa exponent accuracy).1.mantissa.log2 = 52 ∧
      (shiftToTargetExponent Format.binary64 mantissa exponent accuracy).2
        = exponent + (mantissa.log2 - 52) := by
  have hcount : (exponent + ((mantissa.log2 : Int) - 52) - exponent).toNat
      = mantissa.log2 - 52 := by omega
  simp only [shiftToTargetExponent, shiftToExponent, targetExponent_eq hexponent, hcount,
    mantissa_shiftRight, mantissa_ofMantissaAndAccuracy]
  constructor
  · rw [log2_div_two_pow (by omega)]
    omega
  · omega

theorem log2_mono {m n : Nat} (hm : m ≠ 0) (h : m ≤ n) : m.log2 ≤ n.log2 :=
  (Nat.le_log2 (by omega)).2 (Nat.le_trans (Nat.log2_self_le hm) h)

theorem ne_zero_of_log2 {n : Nat} (hlog : n.log2 = 52) : n ≠ 0 := by
  rintro rfl
  simp at hlog

theorem between_roundWithAccuracy {mantissa : Nat} {exponent least most : Int} (sign : Sign)
    (accuracy : Accuracy) (hlog : 52 ≤ mantissa.log2) (hleast : -1074 ≤ least)
    (hexponent : least ≤ exponent + (mantissa.log2 - 52))
    (hmost : exponent + (mantissa.log2 - 51) ≤ most) :
    Between sign least most
      (roundWithAccuracy Format.binary64 sign mantissa exponent accuracy) := by
  obtain ⟨hfull, hfirst⟩ :=
    shiftToTargetExponent_full accuracy hlog (Int.le_trans hleast hexponent)
  unfold roundWithAccuracy
  generalize shiftToTargetExponent Format.binary64 mantissa exponent accuracy = first at *
  obtain ⟨extended, carried⟩ := first
  dsimp only at hfull hfirst ⊢
  -- Rounding may carry into a 54th bit, which the second shift drops.
  have hrounded : 52 ≤ extended.roundedMantissa.log2 := by
    have hmono := log2_mono (ne_zero_of_log2 hfull) (le_roundedMantissa extended)
    omega
  have hcarry : extended.roundedMantissa.log2 < 54 := by
    have hmantissa : extended.mantissa < 2 ^ 53 :=
      (Nat.log2_lt (ne_zero_of_log2 hfull)).mp (by omega)
    have hle := roundedMantissa_le extended
    have hne : extended.roundedMantissa ≠ 0 := by
      intro hzero
      rw [hzero] at hrounded
      simp at hrounded
    exact (Nat.log2_lt hne).mpr (by omega)
  obtain ⟨hagain, hsecond⟩ := @shiftToTargetExponent_full _ carried .exact hrounded (by omega)
  rw [dif_neg (ne_zero_of_log2 hagain)]
  exact .finite _ _ _ hagain (by omega) (by omega)

theorem between_round {mantissa : Nat} {exponent least most : Int} (sign : Sign)
    (hmantissa : mantissa ≠ 0) (hleast : -1074 ≤ least)
    (hexponent : least ≤ exponent + (mantissa.log2 - 52))
    (hmost : exponent + (mantissa.log2 - 51) ≤ most) :
    Between sign least most (UnpackedFloat.round Format.binary64 sign mantissa exponent) := by
  have hlarge : -1074 ≤ exponent + (mantissa.log2 - 52) := Int.le_trans hleast hexponent
  simp only [UnpackedFloat.round, UnpackedFloat.decreaseExponent, targetExponent_eq hlarge,
    Nat.shiftLeft_eq]
  apply between_roundWithAccuracy sign .exact _ hleast
  · rw [log2_mul_two_pow hmantissa]
    omega
  · rw [log2_mul_two_pow hmantissa]
    omega
  · rw [log2_mul_two_pow hmantissa]
    omega

theorem two_pow_le_of_log2 {n : Nat} (hlog : n.log2 = 52) : 2 ^ 52 ≤ n :=
  hlog ▸ Nat.log2_self_le (ne_zero_of_log2 hlog)

theorem lt_two_pow_of_log2 {n : Nat} (hlog : n.log2 = 52) : n < 2 ^ 53 :=
  (Nat.log2_lt (ne_zero_of_log2 hlog)).mp (by omega)

theorem Between.mul {sign₁ sign₂ : Sign} {least₁ least₂ most₁ most₂ : Int}
    {left right : UnpackedFloat} (hleft : Between sign₁ least₁ most₁ left)
    (hright : Between sign₂ least₂ most₂ right) (hleast : -1074 ≤ least₁ + least₂ + 52) :
    Between (sign₁ * sign₂) (least₁ + least₂ + 52) (most₁ + most₂ + 54)
      (UnpackedFloat.mul Format.binary64 left right) := by
  obtain ⟨mantissa₁, exponent₁, positive₁, full₁, large₁, small₁⟩ := hleft
  obtain ⟨mantissa₂, exponent₂, positive₂, full₂, large₂, small₂⟩ := hright
  have hne : mantissa₁ * mantissa₂ ≠ 0 :=
    Nat.mul_ne_zero (ne_zero_of_log2 full₁) (ne_zero_of_log2 full₂)
  have hlow : 104 ≤ (mantissa₁ * mantissa₂).log2 := by
    apply (Nat.le_log2 hne).2
    calc 2 ^ 104
      _ = 2 ^ 52 * 2 ^ 52 := by rw [← Nat.pow_add]
      _ ≤ mantissa₁ * mantissa₂ :=
        Nat.mul_le_mul (two_pow_le_of_log2 full₁) (two_pow_le_of_log2 full₂)
  have hhigh : (mantissa₁ * mantissa₂).log2 < 106 := by
    apply (Nat.log2_lt hne).2
    calc mantissa₁ * mantissa₂
      _ < 2 ^ 53 * 2 ^ 53 :=
        Nat.mul_lt_mul'' (lt_two_pow_of_log2 full₁) (lt_two_pow_of_log2 full₂)
      _ = 2 ^ 106 := by rw [← Nat.pow_add]
  exact between_roundWithAccuracy _ .exact (by omega) hleast (by omega) (by omega)

theorem Normal.exists_between {sign : Sign} {least : Int} {float : UnpackedFloat}
    (h : Normal sign least float) :
    float = .infinity sign ∨ ∃ most, Between sign least most float := by
  cases h with
  | infinity => exact .inl rfl
  | finite mantissa exponent positive full large =>
    exact .inr ⟨exponent, .finite mantissa exponent positive full large (Int.le_refl _)⟩

theorem Normal.mul {sign₁ sign₂ : Sign} {least₁ least₂ : Int} {left right : UnpackedFloat}
    (hleft : Normal sign₁ least₁ left) (hright : Normal sign₂ least₂ right)
    (hleast : -1074 ≤ least₁ + least₂ + 52) :
    Normal (sign₁ * sign₂) (least₁ + least₂ + 52)
      (UnpackedFloat.mul Format.binary64 left right) := by
  rcases hleft.exists_between with rfl | ⟨most₁, hleft⟩
  · cases hright <;> exact .infinity
  · rcases hright.exists_between with rfl | ⟨most₂, hright⟩
    · cases hleft
      exact .infinity
    · exact (hleft.mul hright hleast).normal

theorem Normal.neg {sign : Sign} {least : Int} {float : UnpackedFloat}
    (h : Normal sign least float) : Normal (-sign) least float.neg := by
  cases h with
  | infinity => exact .infinity
  | finite mantissa exponent positive full large => exact .finite _ _ _ full large

theorem Normal.compare_eq_lt {least₁ least₂ : Int} {left right : UnpackedFloat}
    (hleft : Normal .negative least₁ left) (hright : Normal .positive least₂ right) :
    left.compare right = some .lt := by
  cases hleft <;> cases hright <;> rfl

theorem unpackSign_packComponents {spec : Format} (sign : Sign)
    (exponent : BitVec spec.exponentBits) (mantissa : BitVec spec.mantissaBitsWithoutImplicit) :
    Sign.ofBitVec (unpackSign (packComponents spec sign exponent mantissa)) = sign := by
  have hbits : unpackSign (packComponents spec sign exponent mantissa) = sign.toBitVec := by
    ext i hi
    obtain rfl : i = 0 := by omega
    simp [unpackSign, packComponents, BitVec.getLsbD_append, BitVec.getElem_append]
  rw [hbits]
  cases sign <;> rfl

theorem log2_hidden_append (fraction : BitVec 52) : (1#1 ++ fraction).toNat.log2 = 52 := by
  have hvalue : (1#1 ++ fraction).toNat = 2 ^ 52 + fraction.toNat := by
    rw [BitVec.toNat_append, ← Nat.shiftLeft_add_eq_or_of_lt fraction.isLt]
    rfl
  have hfraction := fraction.isLt
  rw [hvalue]
  apply (Nat.log2_eq_iff (by omega)).2
  omega

theorem unpack_packedInfinity (sign : Sign) :
    UnpackedFloat.unpack Format.binary64 (packedInfinity Format.binary64 sign)
      = .infinity sign := by
  simp [UnpackedFloat.unpack, packedInfinity]

theorem between_unpack_packComponents {sign : Sign} {least most : Int} {biased : Nat}
    (fraction : BitVec 52) (hpos : 0 < biased) (hlt : biased < 2047)
    (hleast : least ≤ (biased : Int) - 1075) (hmost : (biased : Int) - 1075 ≤ most) :
    Between sign least most (UnpackedFloat.unpack Format.binary64
      (packComponents Format.binary64 sign (BitVec.ofNat _ biased) fraction)) := by
  have hvalue : (BitVec.ofNat 11 biased).toNat = biased := by
    rw [BitVec.toNat_ofNat]
    omega
  have hall : BitVec.ofNat 11 biased ≠ -1#11 := by
    intro heq
    have hsame : biased = 2047 := hvalue.symm.trans (congrArg BitVec.toNat heq)
    omega
  have hzero : BitVec.ofNat 11 biased ≠ 0#11 := by
    intro heq
    have hsame : biased = 0 := hvalue.symm.trans (congrArg BitVec.toNat heq)
    omega
  simp only [UnpackedFloat.unpack, unpackExponent_packComponents, unpackMantissa_packComponents,
    unpackSign_packComponents]
  rw [if_neg hall, if_neg hzero]
  apply Between.finite
  · exact log2_hidden_append fraction
  · simp only [hvalue, Format.exponentBias]
    omega
  · simp only [hvalue, Format.exponentBias]
    omega

theorem Between.unpack_pack {sign : Sign} {least most : Int} {float : UnpackedFloat}
    (h : Between sign least most float) (hleast : -1074 ≤ least) (hmost : most ≤ 971) :
    Between sign least most
      (UnpackedFloat.unpack Format.binary64 (UnpackedFloat.pack Format.binary64 float)) := by
  obtain ⟨mantissa, exponent, positive, full, large, small⟩ := h
  have hpack : UnpackedFloat.pack Format.binary64 (.finite sign mantissa exponent positive)
      = packComponents Format.binary64 sign (BitVec.ofNat _ (exponent + 1075).toNat)
          (BitVec.ofNat _ mantissa) := by
    simp only [UnpackedFloat.pack, Format.exponentBias, Format.mantissaBits, full, if_true]
    rw [if_neg (by omega)]
    congr 2
    omega
  rw [hpack]
  exact between_unpack_packComponents _ (by omega) (by omega) (by omega) (by omega)

theorem Normal.unpack_pack {sign : Sign} {least : Int} {float : UnpackedFloat}
    (h : Normal sign least float) (hleast : -1074 ≤ least) :
    Normal sign least
      (UnpackedFloat.unpack Format.binary64 (UnpackedFloat.pack Format.binary64 float)) := by
  cases h with
  | infinity =>
    rw [UnpackedFloat.pack, unpack_packedInfinity]
    exact .infinity
  | finite mantissa exponent positive full large =>
    by_cases hover : 971 < exponent
    · have hpack : UnpackedFloat.pack Format.binary64 (.finite sign mantissa exponent positive)
          = packedInfinity Format.binary64 sign := by
        rw [UnpackedFloat.pack]
        apply if_pos
        simp only [Format.exponentBias]
        omega
      rw [hpack, unpack_packedInfinity]
      exact .infinity
    · have hbetween : Between sign least exponent (.finite sign mantissa exponent positive) :=
        .finite mantissa exponent positive full large (Int.le_refl _)
      exact (hbetween.unpack_pack hleast (by omega)).normal

theorem between_ofNat {n : Nat} (hn : n ≠ 0) :
    Between .positive (-52) (n.log2 - 51) (UnpackedFloat.ofNat Format.binary64 n) := by
  have hcompare : compare (n : Int) 0 = .gt := by
    rw [Int.compare_eq_gt]
    omega
  simp only [UnpackedFloat.ofNat, UnpackedFloat.ofInt, UnpackedFloat.normalize, hcompare,
    Int.toNat_natCast]
  exact between_round _ hn (by omega) (by omega) (by omega)

theorem normal_ofScientific {n : Nat} (hn : n ≠ 0) :
    Normal .positive (-52) (UnpackedFloat.ofScientific Format.binary64 n 0) := by
  have hpower : ¬ (0 : Int) > 2 ^ 11 := by decide
  have hlog : ¬ (0 : Int) < -((2 ^ 11 : Int) + n.log2) := by omega
  simp only [UnpackedFloat.ofScientific, dif_neg hn, if_neg hpower, if_neg hlog, Int.le_refl,
    if_true, UnpackedFloat.mul, Nat.shiftLeft_eq, Format.mantissaBits, Int.toNat_zero, Nat.pow_zero,
    Nat.mul_one]
  refine (between_roundWithAccuracy _ .exact ?_ (by decide) ?_ (Int.le_refl _)).normal
  · rw [log2_mul_two_pow hn]
    omega
  · rw [log2_mul_two_pow hn]
    omega

end Throughput.Numeric
