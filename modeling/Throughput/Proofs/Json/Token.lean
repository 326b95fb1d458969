import Throughput.Json.Token
import Throughput.Proofs.Json.Numeral
import Throughput.Proofs.Json.Quoted

/-!
# Tokens of written texts

The token of a written number, text or word, whatever follows it.
-/

namespace Throughput.Json

namespace Token

theorem ofText_nil : ofText [] = [] := by
  rw [ofText]

theorem ofText_blank {c : Char} (hblank : isBlank c) (rest : List Char) :
    ofText (c :: rest) = ofText rest := by
  rw [ofText, if_pos hblank]

theorem ofText_blanks {blanks : List Char} (hblanks : ∀ c ∈ blanks, isBlank c) (rest : List Char) :
    ofText (blanks ++ rest) = ofText rest := by
  induction blanks with
  | nil => rfl
  | cons c blanks ih =>
    rw [List.cons_append, ofText_blank (hblanks c List.mem_cons_self),
      ih fun d hd => hblanks d (List.mem_cons_of_mem _ hd)]

theorem ofText_cons {c : Char} (hblank : isBlank c = false) (rest : List Char) :
    ofText (c :: rest) = (next c rest).1 :: ((next c rest).2.map ofText).getD [] := by
  rw [ofText, if_neg (by simp [hblank])]
  split <;> next hnext => simp [hnext]

theorem ofText_next {c : Char} {rest after : List Char} {token : Token}
    (hblank : isBlank c = false) (hnext : next c rest = (token, some after)) :
    ofText (c :: rest) = token :: ofText after := by
  rw [ofText_cons hblank, hnext]
  rfl

theorem ofText_append_of_eq_nil {text : List Char} (htext : ofText text = []) (rest : List Char) :
    ofText (text ++ rest) = ofText rest := by
  induction text with
  | nil => rfl
  | cons c text ih =>
    rw [ofText] at htext
    split at htext
    · next hblank => rw [List.cons_append, ofText_blank hblank, ih htext]
    · split at htext <;> exact absurd htext (by simp)

/-! ## Numbers -/

theorem next_of_isDigit {c : Char} (hdigit : Numeral.isDigit c) (rest : List Char) :
    isBlank c = false ∧ next c rest = ofNumeral false (c :: rest) := by
  have hmem : c ∈ "0123456789".toList := by
    have hcode : 48 ≤ c.toNat ∧ c.toNat ≤ 57 := by
      simpa [Numeral.isDigit, Char.isDigit, UInt32.le_iff_toNat_le] using hdigit
    have hall : ∀ n < 10, Char.ofNat (48 + n) ∈ "0123456789".toList := by decide
    have hchar := hall (c.toNat - 48) (by omega)
    rwa [Nat.add_sub_cancel' hcode.1, Char.ofNat_toNat] at hchar
  simp only [String.reduceToList, List.mem_cons, List.not_mem_nil, or_false] at hmem
  rcases hmem with rfl | rfl | rfl | rfl | rfl | rfl | rfl | rfl | rfl | rfl <;>
    exact ⟨by decide, rfl⟩

theorem exists_whole {text : List Char} (h : IsWhole text) :
    ∃ c rest, text = c :: rest ∧ Numeral.isDigit c := by
  cases h with
  | zero => exact ⟨'0', [], rfl, rfl⟩
  | digits hdigits _ =>
    obtain ⟨c, rest, rfl⟩ := List.exists_cons_of_ne_nil hdigits.ne_nil
    exact ⟨c, rest, rfl, hdigits.isDigit c List.mem_cons_self⟩

/-- A numeral is one token, in front of anything that does not continue it. -/
theorem ofText_numeral {text : List Char} {numeral : Numeral} (h : IsNumeral text numeral)
    {rest : List Char} (hrest : Delimited rest) :
    ofText (text ++ rest) = .number ⟨numeral.number, .ok ()⟩ :: ofText rest := by
  cases h with
  | @unsigned whole point mark _ _ hwhole hfraction hexponent =>
    have hscan := Numeral.scanUnsigned_append
      (Numeral.scanUnsigned_parts hwhole hfraction hexponent false) hrest
    obtain ⟨c, digits, hcons, hdigit⟩ := exists_whole hwhole
    subst hcons
    rw [List.cons_append, List.cons_append] at hscan ⊢
    refine ofText_next (next_of_isDigit hdigit []).1 ?_
    rw [(next_of_isDigit hdigit _).2, ofNumeral, hscan]
    rfl
  | negative hwhole hfraction hexponent =>
    have hscan := Numeral.scanUnsigned_append
      (Numeral.scanUnsigned_parts hwhole hfraction hexponent true) hrest
    rw [List.cons_append]
    refine ofText_next rfl ?_
    change ofNumeral true _ = _
    rw [ofNumeral, hscan]
    rfl

theorem ofText_whole {text : List Char} (h : IsWhole text)
    (hsmall : Text.ofDigits 10 text ≤ Numeric.maxWord64) {rest : List Char}
    (hrest : Delimited rest) :
    ofText (text ++ rest) =
      .number ⟨.ok (.natural (Text.ofDigits 10 text)), .ok ()⟩ :: ofText rest := by
  have hnumeral : IsNumeral text ⟨false, text, none, none⟩ := by
    simpa using IsNumeral.unsigned h .none .none
  rw [ofText_numeral hnumeral hrest, Numeral.number_whole hsmall]

theorem ofText_decimal {n : Nat} (hn : n ≤ Numeric.maxWord64) {rest : List Char}
    (hrest : Delimited rest) :
    ofText (Text.decimal n ++ rest) = .number ⟨.ok (.natural n), .ok ()⟩ :: ofText rest := by
  have hvalue := Text.ofDigits_decimal n
  have htext := ofText_whole (Numeral.isWhole_decimal n) (hvalue.symm ▸ hn) hrest
  rwa [hvalue] at htext

theorem ofNumeral_append {negative : Bool} {text after rest : List Char} {token : Token}
    (h : ofNumeral negative text = (token, some after)) (hrest : Delimited rest) :
    ofNumeral negative (text ++ rest) = (token, some (after ++ rest)) := by
  unfold ofNumeral at h
  split at h
  · next hscan =>
    obtain ⟨rfl, hafter⟩ := Prod.mk.inj h
    obtain rfl := Option.some.inj hafter
    rw [ofNumeral, Numeral.scanUnsigned_append hscan hrest]
  · exact absurd h (by simp)

/-! ## Quoted texts and words -/

theorem ofText_quoted {spelling : List Char} {pieces : List Quoted.Piece}
    (h : Spelled spelling pieces) (rest : List Char) :
    ofText ('"' :: spelling ++ ['"'] ++ rest) =
      .quoted ⟨Quoted.join (.ok ()) pieces, .ok ()⟩ :: ofText rest := by
  rw [List.append_assoc, List.singleton_append, List.cons_append]
  refine ofText_next rfl ?_
  change ofQuoted _ = _
  rw [ofQuoted, h.scan]

theorem ofText_encode (text rest : List Char) :
    ofText (Quoted.encode text ++ rest) = .quoted ⟨.ok text, .ok ()⟩ :: ofText rest := by
  rw [Quoted.encode, ofText_quoted (Quoted.spelled_encode text), (Quoted.means_pieces text).join]

theorem ofText_boolean (b : Bool) (rest : List Char) :
    ofText ((if b then "true" else "false").toList ++ rest) = .boolean b :: ofText rest := by
  cases b <;> exact ofText_next rfl rfl

end Token

end Throughput.Json
