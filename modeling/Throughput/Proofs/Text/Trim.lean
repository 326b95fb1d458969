import Mathlib.Data.List.Infix
import Mathlib.Data.List.TakeWhile
import Throughput.Proofs.Text.Visible
import Throughput.Text.Blank

/-!
# Trimmed texts

A text that begins with visible characters keeps them when it is trimmed, and what follows them is
trimmed at its end alone. A pattern is looked for in the same places before and after.
-/

namespace Throughput.Text

theorem isBlank_of_visible {c : Char} (h : 0x21 ≤ c.toNat ∧ c.toNat ≤ 0x7E) :
    isBlank c = false := by
  simp only [isBlank, Bool.or_eq_false_iff, Bool.and_eq_false_iff, decide_eq_false_iff_not]
  omega

section Trim

variable {p : Char → Bool} {left right : List Char}

theorem trimEnd_append (hleft : ∀ c ∈ left, p c = false) :
    trimEnd p (left ++ right) = left ++ trimEnd p right := by
  have hkept : left.reverse.dropWhile p = left.reverse := by
    rw [List.dropWhile_eq_self_iff]
    intro hpos
    exact Bool.eq_false_iff.mp (hleft _ (List.mem_reverse.mp (List.getElem_mem hpos)))
  rw [trimEnd, trimEnd, List.reverse_append, List.dropWhile_append]
  split
  · next hempty =>
    rw [List.isEmpty_iff.mp hempty, hkept, List.reverse_reverse, List.reverse_nil, List.append_nil]
  · rw [List.reverse_append, List.reverse_reverse]

theorem trimBy_append (hsome : left ≠ []) (hleft : ∀ c ∈ left, p c = false) :
    trimBy p (left ++ right) = left ++ trimEnd p right := by
  have hkept : (left ++ right).dropWhile p = left ++ right := by
    obtain ⟨c, rest, rfl⟩ := List.exists_cons_of_ne_nil hsome
    exact List.dropWhile_cons_of_neg (by simp [hleft c List.mem_cons_self])
  rw [trimBy, hkept, trimEnd_append hleft]

theorem exists_trimEnd (p : Char → Bool) (text : List Char) :
    ∃ trimmed, text = trimEnd p text ++ trimmed ∧ ∀ c ∈ trimmed, p c = true := by
  refine ⟨(text.reverse.takeWhile p).reverse, ?_, ?_⟩
  · rw [trimEnd, ← List.reverse_append, List.takeWhile_append_dropWhile, List.reverse_reverse]
  · intro c hc
    exact List.mem_takeWhile_imp (List.mem_reverse.mp hc)

end Trim

theorem trim_append {left right : List Char} (hsome : left ≠ []) (hleft : Visible left) :
    trim (left ++ right) = left ++ trimEnd isBlank right :=
  trimBy_append hsome fun c hc => isBlank_of_visible (hleft c hc)

theorem occursIn_iff {pattern text : List Char} :
    occursIn pattern text = true ↔ pattern <:+: text := by
  induction text with
  | nil => simp [occursIn]
  | cons c rest ih =>
    rw [occursIn, Bool.or_eq_true, ih, List.isPrefixOf_iff_prefix, List.infix_cons_iff]

section Infix

variable {c : Char} {pattern left right : List Char}

/-- A pattern does not begin in a part that lacks its first character. -/
theorem cons_infix_append_iff (hc : c ∉ left) :
    c :: pattern <:+: left ++ right ↔ c :: pattern <:+: right := by
  induction left with
  | nil => exact Iff.rfl
  | cons first rest ih =>
    obtain ⟨hfirst, hrest⟩ := not_or.mp (mt List.mem_cons.mpr hc)
    have hbegins : ¬ c :: pattern <+: first :: (rest ++ right) :=
      fun h => hfirst (List.cons_prefix_cons.mp h).1
    rw [List.cons_append, List.infix_cons_iff, ih hrest]
    exact or_iff_right hbegins

/-- A pattern does not end in a part that lacks its last character. -/
theorem concat_infix_append_iff (hc : c ∉ right) :
    pattern ++ [c] <:+: left ++ right ↔ pattern ++ [c] <:+: left := by
  have hlast : c ∉ right.reverse := by simpa using hc
  calc pattern ++ [c] <:+: left ++ right
    _ ↔ c :: pattern.reverse <:+: right.reverse ++ left.reverse := by
      rw [← List.reverse_infix, List.reverse_concat, List.reverse_append]
    _ ↔ c :: pattern.reverse <:+: left.reverse := cons_infix_append_iff hlast
    _ ↔ pattern ++ [c] <:+: left := by rw [← List.reverse_concat, List.reverse_infix]

end Infix

/-- Trimming takes no place of a pattern away that ends in a visible character. -/
theorem concat_infix_trimEnd_iff {c : Char} (hc : isBlank c = false) (pattern text : List Char) :
    pattern ++ [c] <:+: trimEnd isBlank text ↔ pattern ++ [c] <:+: text := by
  obtain ⟨trimmed, htext, hblank⟩ := exists_trimEnd isBlank text
  have hlast : c ∉ trimmed := by
    intro hmem
    rw [hblank c hmem] at hc
    cases hc
  conv_rhs => rw [htext]
  exact (concat_infix_append_iff hlast).symm

end Throughput.Text
