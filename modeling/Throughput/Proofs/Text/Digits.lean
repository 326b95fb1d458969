import Mathlib.Algebra.GroupWithZero.Nat
import Throughput.Text.Digits

/-!
# Decimal digits

A number is read back from its decimal digits, which have no zero in front, and from the same digits
with zeros in front up to a width.
-/

namespace Throughput.Text

theorem decimal_eq (n : Nat) :
    decimal n = if n < 10 then [Nat.digitChar n] else decimal (n / 10) ++ [Nat.digitChar (n % 10)] :=
  Nat.toDigits_eq_if (by decide)

theorem digit?_digitChar {digit : Nat} (h : digit < 10) :
    digit? 10 (Nat.digitChar digit) = some digit := by
  revert digit
  decide

theorem ofDigits_append (base : Nat) (digits : List Char) (c : Char) :
    ofDigits base (digits ++ [c]) = base * ofDigits base digits + (digit? base c).getD 0 := by
  simp [ofDigits]

theorem ofDigits_decimal (n : Nat) : ofDigits 10 (decimal n) = n := by
  induction n using Nat.strongRecOn with
  | ind n ih =>
    rw [decimal_eq]
    split
    · next hsmall =>
      rw [← List.nil_append [_], ofDigits_append, digit?_digitChar hsmall]
      simp [ofDigits]
    · next hlarge =>
      rw [ofDigits_append, ih (n / 10) (by omega), digit?_digitChar (by omega), Option.getD_some]
      omega

theorem isDigit_of_mem_decimal {n : Nat} {c : Char} (h : c ∈ decimal n) : c.isDigit :=
  Nat.isDigit_of_mem_toDigits (by decide) (by decide) h

theorem exists_decimal (n : Nat) : ∃ c rest, decimal n = c :: rest ∧ c.isDigit := by
  obtain ⟨c, rest, hdigits⟩ := List.exists_cons_of_ne_nil (Nat.toDigits_ne_nil (n := n) (b := 10))
  exact ⟨c, rest, hdigits, isDigit_of_mem_decimal (hdigits ▸ List.mem_cons_self)⟩

/-- Only zero begins with a zero. -/
theorem head?_decimal_ne {n : Nat} (hn : n ≠ 0) : (decimal n).head? ≠ some '0' := by
  induction n using Nat.strongRecOn with
  | ind n ih =>
    rw [decimal_eq]
    split
    · next hsmall =>
      have hdigit : ∀ digit < 10, digit ≠ 0 → Nat.digitChar digit ≠ '0' := by decide
      simpa using hdigit n hsmall hn
    · next hlarge =>
      have hbefore := ih (n / 10) (by omega) (by omega)
      obtain ⟨c, rest, hdigits, -⟩ := exists_decimal (n / 10)
      rw [hdigits] at hbefore ⊢
      simpa using hbefore

/-! ## Zeros in front -/

theorem ofDigits_zeros (count : Nat) (digits : List Char) :
    ofDigits 10 (List.replicate count '0' ++ digits) = ofDigits 10 digits := by
  induction count with
  | zero => rfl
  | succ count ih => exact ih

theorem ofDigits_padded (width n : Nat) : ofDigits 10 (padded width n) = n := by
  rw [padded, ofDigits_zeros, ofDigits_decimal]

theorem isDigit_of_mem_padded {width n : Nat} {c : Char} (h : c ∈ padded width n) : c.isDigit := by
  rcases List.mem_append.mp h with hzero | hdigit
  · rw [(List.mem_replicate.mp hzero).2]
    rfl
  · exact isDigit_of_mem_decimal hdigit

theorem length_padded {width n : Nat} (hwidth : 0 < width) (h : n < 10 ^ width) :
    (padded width n).length = width := by
  have hdigits : (decimal n).length ≤ width :=
    (Nat.length_toDigits_le_iff (by decide) hwidth).mpr h
  rw [padded, List.length_append, List.length_replicate]
  omega

end Throughput.Text
