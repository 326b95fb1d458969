import Throughput.Proofs.Json.Grammar
import Throughput.Proofs.Text.Digits

/-!
# Numerals in front of other text

A numeral is taken apart as it is written. What is read to its end is read the same in front of
anything that cannot continue it.
-/

namespace Throughput.Json

/-- A text that continues no numeral. -/
def Delimited (text : List Char) : Prop :=
  ∀ c ∈ text.head?, Numeral.isDigit c = false ∧ c ≠ '.' ∧ Numeral.isExponentMark c = false

namespace Numeral

variable {text after rest : List Char}

theorem takeWhile_append (hrest : ∀ c ∈ rest.head?, isDigit c = false) :
    (text ++ rest).takeWhile isDigit = text.takeWhile isDigit := by
  induction text with
  | nil =>
    cases rest with
    | nil => rfl
    | cons c rest => simp [hrest c rfl]
  | cons c text ih => simp only [List.cons_append, List.takeWhile_cons, ih]

theorem dropWhile_append (hrest : ∀ c ∈ rest.head?, isDigit c = false) :
    (text ++ rest).dropWhile isDigit = text.dropWhile isDigit ++ rest := by
  induction text with
  | nil =>
    cases rest with
    | nil => rfl
    | cons c rest => simp [hrest c rfl]
  | cons c text ih =>
    simp only [List.cons_append, List.dropWhile_cons, ih]
    split <;> rfl

theorem scanDigits_append {digits : List Char} (h : scanDigits text = .ok (digits, after))
    (hrest : ∀ c ∈ rest.head?, isDigit c = false) :
    scanDigits (text ++ rest) = .ok (digits, after ++ rest) := by
  cases text with
  | nil => simp [scanDigits] at h
  | cons c text =>
    simp only [scanDigits] at h
    split at h
    · next hdigit =>
      obtain ⟨rfl, rfl⟩ := Prod.mk.inj (Except.ok.inj h)
      rw [← takeWhile_append hrest, ← dropWhile_append hrest]
      simp [scanDigits, hdigit]
    · exact absurd h (by simp)

theorem scanWhole_append {whole : List Char} (h : scanWhole text = .ok (whole, after))
    (hrest : ∀ c ∈ rest.head?, isDigit c = false) :
    scanWhole (text ++ rest) = .ok (whole, after ++ rest) := by
  unfold scanWhole at h
  split at h
  · next c others =>
    split at h
    · exact absurd h (by simp)
    · next hdigit =>
      obtain ⟨rfl, rfl⟩ := Prod.mk.inj (Except.ok.inj h)
      simp [scanWhole, hdigit]
  · next hsingle =>
    -- A zero that ended the text may now have something behind it, but no digit.
    by_cases hzero : text = ['0']
    · subst hzero
      obtain ⟨rfl, rfl⟩ := Prod.mk.inj (Except.ok.inj h)
      cases rest with
      | nil => rfl
      | cons c rest =>
        simp only [List.singleton_append, scanWhole, hrest c rfl]
        rfl
    · rw [scanWhole, scanDigits_append h hrest]
      rintro c others hcons
      rcases text with _ | ⟨first, _ | ⟨second, others'⟩⟩
      · simp [scanDigits] at h
      · simp only [List.cons_append, List.cons.injEq] at hcons
        exact hzero (by rw [hcons.1])
      · simp only [List.cons_append, List.cons.injEq] at hcons
        exact hsingle second others' (by rw [hcons.1])

theorem scanFraction_append {fraction : Option (List Char)}
    (h : scanFraction text = .ok (fraction, after))
    (hrest : ∀ c ∈ rest.head?, isDigit c = false ∧ c ≠ '.') :
    scanFraction (text ++ rest) = .ok (fraction, after ++ rest) := by
  unfold scanFraction at h
  split at h
  · next digits =>
    cases hdigits : scanDigits digits with
    | error flaw => simp [hdigits, Except.map] at h
    | ok scanned =>
      rw [hdigits] at h
      obtain ⟨rfl, rfl⟩ := Prod.mk.inj (Except.ok.inj h)
      rw [List.cons_append, scanFraction, scanDigits_append hdigits fun c hc => (hrest c hc).1]
      rfl
  · next hpoint =>
    obtain ⟨rfl, rfl⟩ := Prod.mk.inj (Except.ok.inj h)
    rw [scanFraction]
    rintro digits hcons
    rcases text with _ | ⟨c, text⟩
    · exact (hrest '.' (by rw [show rest = '.' :: digits from hcons]; rfl)).2 rfl
    · simp only [List.cons_append, List.cons.injEq] at hcons
      exact hpoint text (by rw [hcons.1])

theorem scanSign_append (htext : text ≠ []) :
    scanSign (text ++ rest) = ((scanSign text).1, (scanSign text).2 ++ rest) := by
  obtain ⟨c, others, rfl⟩ := List.exists_cons_of_ne_nil htext
  unfold scanSign
  split
  · next hcons =>
    obtain ⟨rfl, rfl⟩ := List.cons.inj hcons
    rfl
  · next hcons =>
    obtain ⟨rfl, rfl⟩ := List.cons.inj hcons
    rfl
  · next hplus hminus =>
    split
    · next hcons =>
      obtain ⟨rfl, rfl⟩ := List.cons.inj hcons
      exact absurd rfl (hplus _)
    · next hcons =>
      obtain ⟨rfl, rfl⟩ := List.cons.inj hcons
      exact absurd rfl (hminus _)
    · rfl

theorem scanExponent_append {exponent : Option Exponent}
    (h : scanExponent text = .ok (exponent, after)) (hrest : Delimited rest) :
    scanExponent (text ++ rest) = .ok (exponent, after ++ rest) := by
  rcases text with _ | ⟨c, text⟩
  · obtain ⟨rfl, rfl⟩ := Prod.mk.inj (Except.ok.inj h)
    rcases rest with _ | ⟨c, rest⟩
    · rfl
    · simp [scanExponent, (hrest c rfl).2.2]
  · simp only [scanExponent] at h
    split at h
    · next hmark =>
      cases hdigits : scanDigits (scanSign text).2 with
      | error flaw => simp [hdigits, Except.map] at h
      | ok scanned =>
        rw [hdigits] at h
        obtain ⟨rfl, rfl⟩ := Prod.mk.inj (Except.ok.inj h)
        have htext : text ≠ [] := by
          rintro rfl
          simp [scanSign, scanDigits] at hdigits
        simp only [List.cons_append, scanExponent, hmark, if_true, scanSign_append htext,
          scanDigits_append hdigits fun c hc => (hrest c hc).1]
        rfl
    · next hmark =>
      obtain ⟨rfl, rfl⟩ := Prod.mk.inj (Except.ok.inj h)
      simp [scanExponent, hmark]

theorem scanUnsigned_append {negative : Bool} {numeral : Numeral}
    (h : scanUnsigned negative text = .ok (numeral, after)) (hrest : Delimited rest) :
    scanUnsigned negative (text ++ rest) = .ok (numeral, after ++ rest) := by
  simp only [scanUnsigned, bind, Except.bind, pure, Except.pure] at h ⊢
  split at h
  · exact absurd h (by simp)
  · next hwhole =>
    split at h
    · exact absurd h (by simp)
    · next hfraction =>
      split at h
      · exact absurd h (by simp)
      · next hexponent =>
        obtain ⟨rfl, rfl⟩ := Prod.mk.inj (Except.ok.inj h)
        simp only [scanWhole_append hwhole fun c hc => (hrest c hc).1,
          scanFraction_append hfraction fun c hc => ⟨(hrest c hc).1, (hrest c hc).2.1⟩,
          scanExponent_append hexponent hrest]

/-! ## Numerals of the grammar -/

theorem scanDigits_digits (h : Digits text) : scanDigits text = .ok (text, []) := by
  have htake : text.takeWhile isDigit = text := by
    simpa using @List.takeWhile_append_of_pos _ isDigit _ [] h.isDigit
  have hdrop : text.dropWhile isDigit = [] := by
    simpa using @List.dropWhile_append_of_pos _ isDigit _ [] h.isDigit
  obtain ⟨c, digits, rfl⟩ := List.exists_cons_of_ne_nil h.ne_nil
  rw [scanDigits, if_pos (show isDigit c from h.isDigit c List.mem_cons_self), htake, hdrop]

theorem scanWhole_whole (h : IsWhole text) : scanWhole text = .ok (text, []) := by
  cases h with
  | zero => rfl
  | digits hdigits hhead =>
    rw [scanWhole, scanDigits_digits hdigits]
    rintro c rest rfl
    exact hhead rfl

theorem scanFraction_fraction {fraction : Option (List Char)} (h : IsFraction text fraction) :
    scanFraction text = .ok (fraction, []) := by
  cases h with
  | none => rfl
  | point hdigits =>
    rw [scanFraction, scanDigits_digits hdigits]
    rfl

theorem scanExponent_exponent {exponent : Option Exponent} (h : IsExponent text exponent) :
    scanExponent text = .ok (exponent, []) := by
  have hmarked {mark : Char} (hmark : mark ∈ ['e', 'E']) : isExponentMark mark = true := by
    simpa [isExponentMark] using hmark
  cases h with
  | none => rfl
  | @unsigned mark digits hmark hdigits =>
    have hsign : scanSign digits = (false, digits) := by
      rw [scanSign]
      · rintro rest rfl
        exact absurd (hdigits.isDigit '+' List.mem_cons_self) (by decide)
      · rintro rest rfl
        exact absurd (hdigits.isDigit '-' List.mem_cons_self) (by decide)
    simp only [scanExponent, hmarked hmark, if_true, hsign, scanDigits_digits hdigits]
    rfl
  | signed negative hmark hdigits =>
    cases negative <;>
      · simp only [scanExponent, hmarked hmark, if_true, scanSign, Bool.false_eq_true, if_false,
          scanDigits_digits hdigits]
        rfl

/-- What may stand behind the whole part does not continue it, nor what may stand behind the
fraction. -/
theorem head?_exponent {exponent : Option Exponent} (h : IsExponent text exponent) :
    ∀ c ∈ text.head?, isDigit c = false ∧ c ≠ '.' := by
  have hmarked {mark : Char} (hmark : mark ∈ ['e', 'E']) : isDigit mark = false ∧ mark ≠ '.' := by
    simp only [List.mem_cons, List.not_mem_nil, or_false] at hmark
    rcases hmark with rfl | rfl <;> decide
  cases h with
  | none => simp
  | unsigned hmark _ => exact fun c hc => Option.some.inj hc ▸ hmarked hmark
  | signed _ hmark _ => exact fun c hc => Option.some.inj hc ▸ hmarked hmark

theorem head?_fraction {fraction : Option (List Char)} (h : IsFraction text fraction)
    (hrest : ∀ c ∈ rest.head?, isDigit c = false) :
    ∀ c ∈ (text ++ rest).head?, isDigit c = false := by
  cases h with
  | none => exact hrest
  | point _ =>
    intro c hc
    obtain rfl := Option.some.inj hc
    rfl

theorem scanUnsigned_parts {whole point mark : List Char} {fraction : Option (List Char)}
    {exponent : Option Exponent} (hwhole : IsWhole whole) (hfraction : IsFraction point fraction)
    (hexponent : IsExponent mark exponent) (negative : Bool) :
    scanUnsigned negative (whole ++ (point ++ mark)) =
      .ok (⟨negative, whole, fraction, exponent⟩, []) := by
  have hmark := head?_exponent hexponent
  have hpoint := head?_fraction hfraction fun c hc => (hmark c hc).1
  simp only [scanUnsigned, scanWhole_append (scanWhole_whole hwhole) hpoint, List.nil_append,
    scanFraction_append (scanFraction_fraction hfraction) hmark, scanExponent_exponent hexponent,
    bind, Except.bind, pure, Except.pure]

/-! ## Natural numbers -/

theorem isWhole_decimal (n : Nat) : IsWhole (Text.decimal n) := by
  by_cases hn : n = 0
  · subst hn
    exact .zero
  · refine .digits ⟨?_, fun _ hc => Text.isDigit_of_mem_decimal hc⟩ (Text.head?_decimal_ne hn)
    exact Nat.toDigits_ne_nil

theorem number_whole (h : Text.ofDigits 10 text ≤ Numeric.maxWord64) :
    number ⟨false, text, none, none⟩ = .ok (.natural (Text.ofDigits 10 text)) := by
  simp [number, integer?, h]

end Numeral

end Throughput.Json
