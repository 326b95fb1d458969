import Throughput.Proofs.Json.Grammar

/-!
# Quoted texts read back

What is well spelled is scanned piece by piece, and joined to the characters that it stands for.
Every text is written in a spelling that stands for it. Control characters without an escape of
their own are the only ones that are written as numbers, and none of them is a surrogate.
-/

namespace Throughput.Json

open Quoted

/-! ## Spellings -/

theorem isHexDigit_of_mem {d : Char} (h : d ∈ hexDigits) : Text.isHexDigit d := by
  have hall : hexDigits.all Text.isHexDigit := by decide
  exact List.all_eq_true.mp hall d h

theorem scan_short {mark c : Char} (h : (mark, c) ∈ shortEscapes) (rest : List Char) :
    scan ('\\' :: mark :: rest) = (scan rest).cons (.plain c) := by
  simp only [shortEscapes, List.mem_cons, List.not_mem_nil, or_false, Prod.mk.injEq] at h
  rcases h with h | h | h | h | h | h | h | h <;> obtain ⟨rfl, rfl⟩ := h <;> rfl

theorem scan_numbered {digits : List Char} (hlength : digits.length = 4)
    (hhex : digits ⊆ hexDigits) (rest : List Char) :
    scan ('\\' :: 'u' :: (digits ++ rest)) =
      (scan rest).cons (.unit (Text.ofDigits 16 digits)) := by
  match digits, hlength with
  | [a, b, c, d], _ =>
    have hall : [a, b, c, d].all Text.isHexDigit :=
      List.all_eq_true.mpr fun e he => isHexDigit_of_mem (hhex he)
    rw [List.cons_append, List.cons_append, List.cons_append, List.cons_append, List.nil_append,
      scan, if_pos hall]

theorem scan_plain {c : Char} (hquote : c ≠ '"') (hescape : c ≠ '\\') (hlow : 0x20 ≤ c.toNat)
    (rest : List Char) : scan (c :: rest) = (scan rest).cons (.plain c) := by
  have hcontrol : isControl c = false := decide_eq_false (Nat.not_lt.mpr hlow)
  rw [scan, hcontrol]
  · rfl
  all_goals simp_all

theorem Spelled.scan {spelling : List Char} {pieces : List Piece} (h : Spelled spelling pieces)
    (rest : List Char) : Quoted.scan (spelling ++ '"' :: rest) = (pieces, .ok rest) := by
  induction h with
  | nil => rfl
  | plain hquote hescape hlow _ ih =>
    rw [List.cons_append, scan_plain hquote hescape hlow, ih]
    rfl
  | short hmark _ ih =>
    rw [List.cons_append, List.cons_append, scan_short hmark, ih]
    rfl
  | numbered hlength hhex _ ih =>
    rw [List.cons_append, List.cons_append, List.append_assoc, scan_numbered hlength hhex, ih]
    rfl

theorem Means.join {pieces : List Piece} {text : List Char} (h : Means pieces text) :
    Quoted.join (.ok ()) pieces = .ok text := by
  induction h with
  | nil => rfl
  | plain _ ih =>
    rw [Quoted.join, ih]
    rfl
  | @unit n _ _ hn _ ih =>
    have hhigh : isHighSurrogate n = false := by simp [isHighSurrogate]; omega
    have hlow : isLowSurrogate n = false := by simp [isLowSurrogate]; omega
    rw [Quoted.join.eq_def]
    simp only [hhigh, hlow, ih]
    rfl
  | @pair high low _ _ hhighLe hhigh hlowLe hlow _ ih =>
    have hfirst : isHighSurrogate high = true := by simp [isHighSurrogate, hhighLe, hhigh]
    have hsecond : isLowSurrogate low = true := by simp [isLowSurrogate, hlowLe, hlow]
    rw [Quoted.join.eq_def]
    simp only [hfirst, hsecond, if_true, ih]
    rfl

/-- Pieces are refused if they stand for nothing. -/
theorem means_or_malformed (pieces : List Piece) :
    (∃ text, Means pieces text) ∨ Quoted.join (.ok ()) pieces = .error .malformed := by
  fun_induction Quoted.join (.ok ()) pieces with
  | case1 => exact .inl ⟨[], .nil⟩
  | case2 c rest ih =>
    rcases ih with ⟨text, hmeans⟩ | herror
    · exact .inl ⟨_, .plain hmeans⟩
    · exact .inr (by rw [herror]; rfl)
  | case3 high hhigh low after hlow ih =>
    rcases ih with ⟨text, hmeans⟩ | herror
    · simp only [isHighSurrogate, isLowSurrogate, Bool.and_eq_true, decide_eq_true_eq] at hhigh hlow
      exact .inl ⟨_, .pair hhigh.1 hhigh.2 hlow.1 hlow.2 hmeans⟩
    · exact .inr (by rw [herror]; rfl)
  -- A surrogate whose other half does not follow.
  | case4 | case5 | case6 | case7 => exact .inr rfl
  | case8 n rest hhigh hlow ih =>
    rcases ih with ⟨text, hmeans⟩ | herror
    · simp only [isHighSurrogate, isLowSurrogate, Bool.and_eq_true, decide_eq_true_eq] at hhigh hlow
      exact .inl ⟨_, .unit (by omega) hmeans⟩
    · exact .inr (by rw [herror]; rfl)

/-- A spelling stands for one text at most. -/
theorem Spells.unique {spelling first second : List Char} (hfirst : Spells spelling first)
    (hsecond : Spells spelling second) : first = second := by
  obtain ⟨pieces, hspelled, hmeans⟩ := hfirst
  obtain ⟨others, hothers, hmeant⟩ := hsecond
  have hscan := (hspelled.scan []).symm.trans (hothers.scan [])
  obtain rfl := (Prod.mk.inj hscan).1
  exact Except.ok.inj (hmeans.join.symm.trans hmeant.join)

/-! ## Written texts -/

namespace Quoted

/-- What reading finds in place of a character. -/
def piece (c : Char) : Piece :=
  if isControl c ∧ c ∉ ['\x08', '\x0c', '\n', '\r', '\t'] then .unit c.toNat else .plain c

theorem hexByte_control {n : Nat} (hn : n < 0x20) :
    ['0', '0'] ++ encodeChar.hexByte n ⊆ hexDigits ∧
      Text.ofDigits 16 (['0', '0'] ++ encodeChar.hexByte n) = n := by
  revert n
  decide

theorem spelled_encodeChar (c : Char) {spelling : List Char} {pieces : List Piece}
    (h : Spelled spelling pieces) : Spelled (encodeChar c ++ spelling) (piece c :: pieces) := by
  unfold encodeChar
  split
  case h_8 hquote hescape hback hfeed hline hreturn htab =>
    split
    · next hcontrol =>
      have hshort : c ∉ ['\x08', '\x0c', '\n', '\r', '\t'] := by
        simp only [List.mem_cons, List.not_mem_nil, or_false, not_or]
        exact ⟨hback, hfeed, hline, hreturn, htab⟩
      obtain ⟨hhex, hvalue⟩ := hexByte_control (of_decide_eq_true hcontrol)
      have hspelled := Spelled.numbered rfl hhex h
      rw [hvalue] at hspelled
      rw [piece, if_pos ⟨hcontrol, hshort⟩]
      exact hspelled
    · next hcontrol =>
      rw [piece, if_neg (fun h => hcontrol h.1)]
      exact .plain hquote hescape (Nat.not_lt.mp fun hlow => hcontrol (decide_eq_true hlow)) h
  all_goals exact .short (by decide) h

theorem spelled_encode (text : List Char) : Spelled (text.flatMap encodeChar) (text.map piece) := by
  induction text with
  | nil => exact .nil
  | cons c text ih => exact spelled_encodeChar c ih

theorem means_pieces (text : List Char) : Means (text.map piece) text := by
  induction text with
  | nil => exact .nil
  | cons c text ih =>
    rw [List.map_cons, piece]
    split
    · next hcontrol =>
      have hsmall : c.toNat < 0x20 := of_decide_eq_true hcontrol.1
      have hmeans := Means.unit (n := c.toNat) (.inl (by omega)) ih
      rwa [Char.ofNat_toNat] at hmeans
    · exact .plain ih

end Quoted

end Throughput.Json
