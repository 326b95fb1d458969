import Throughput.Json.Decode
import Throughput.Json.Value
import Throughput.Proofs.Json.Token

/-!
# Doubles read back

A double reads back if its printed form stands for it. Whatever can follow it in a document does not
change what it is read as.
-/

namespace Throughput.Json

theorem Document.finish_nil (node : Node) (tokens : List Token) :
    Document.finish [] node tokens = (node, tokens) := by
  rcases tokens with _ | ⟨token, tokens⟩
  · rw [Document.finish]
  · cases token <;> rw [Document.finish] <;> simp

/-! ## Doubles -/

namespace Amount

theorem exists_positional {digits : List Char} {c : Char} {rest : List Char}
    (hdigits : digits = c :: rest) {point : Nat} (hpoint : 0 < point) :
    ∃ others, positional digits point = c :: others := by
  subst hdigits
  unfold positional
  split
  · exact ⟨_, rfl⟩
  · obtain ⟨n, rfl⟩ : ∃ n, point = n + 1 := ⟨point - 1, by omega⟩
    exact ⟨_, rfl⟩

theorem exists_scientific {digits : List Char} {c : Char} {rest : List Char}
    (hdigits : digits = c :: rest) (exponent : Int) :
    ∃ others, scientific digits exponent = c :: others := by
  subst hdigits
  cases rest <;> exact ⟨_, rfl⟩

theorem exists_ofDecimal (d : Numeric.Decimal) :
    ∃ c rest, ofDecimal d = c :: rest ∧ Numeral.isDigit c := by
  obtain ⟨c, rest, hdigits, hdigit⟩ := Text.exists_decimal d.digits
  unfold ofDecimal
  simp only
  split
  · exact ⟨'0', _, rfl, rfl⟩
  · split
    · next hpoint =>
      have hpositive : 0 < ((Text.decimal d.digits).length + d.exponent).natAbs :=
        Int.natAbs_pos.mpr (Int.ne_of_gt hpoint.1)
      obtain ⟨others, h⟩ := exists_positional hdigits hpositive
      exact ⟨c, others, h, hdigit⟩
    · obtain ⟨others, h⟩ := exists_scientific hdigits _
      exact ⟨c, others, h, hdigit⟩

/-- A printed double is null, or a numeral behind an optional minus. -/
theorem text_cases (x : Float) :
    text x = "null".toList ∨
      (∃ c rest, text x = c :: rest ∧ Numeral.isDigit c) ∨ ∃ rest, text x = '-' :: rest := by
  unfold text ofDouble
  split
  · exact .inl rfl
  · exact .inl rfl
  · simp only
    split
    · exact .inr (.inr ⟨_, rfl⟩)
    · split
      · exact .inr (.inl ⟨'0', _, rfl, rfl⟩)
      · exact .inr (.inl (exists_ofDecimal _))

end Amount

/-- Is the printed form of a double read as the same double? -/
def ReadsBack (x : Float) : Prop :=
  decode Node.double (String.ofList (Amount.text x)) = .ok x

theorem decode_number {α : Type} {read : Node → Outcome α} {text : List Char} {leaf : Leaf Number}
    {tokens : List Token} (h : Token.ofText text = .number leaf :: tokens) :
    decode read (String.ofList text) =
      (read (.number leaf)).bind fun value =>
        if tokens.isEmpty then .ok value else .error .malformed := by
  rw [decode, String.toList_ofList, Document.ofText, h, Document.value, Document.finish_nil]
  rfl

theorem decode_null : decode Node.double (String.ofList "null".toList) = .error .mistyped := by
  have htokens : Token.ofText "null".toList = [.null] := by
    rw [show "null".toList = 'n' :: "ull".toList from rfl, Token.ofText_next rfl rfl,
      Token.ofText_nil]
  rw [decode, String.toList_ofList, Document.ofText, htokens, Document.value, Document.finish_nil]
  rfl

namespace ReadsBack

variable {x : Float}

theorem number_of_decode {c : Char} {rest text : List Char} {negative : Bool}
    (hblank : Token.isBlank c = false) (hnext : Token.next c rest = Token.ofNumeral negative text)
    (h : decode Node.double (String.ofList (c :: rest)) = .ok x) :
    ∃ leaf after, Token.ofNumeral negative text = (.number leaf, some after) ∧
      Token.ofText after = [] ∧ (Node.number leaf).double = .ok x := by
  have htokens := Token.ofText_cons hblank rest
  rw [hnext] at htokens
  unfold Token.ofNumeral at htokens ⊢
  split at htokens
  · next numeral after _ =>
    rw [decode_number htokens] at h
    cases hdouble : (Node.number ⟨numeral.number, .ok ()⟩).double with
    | error fault => simp [hdouble, Except.bind] at h
    | ok y =>
      simp only [hdouble, Except.bind, Option.map_some, Option.getD_some,
        List.isEmpty_iff] at h
      split at h
      · next hafter => exact ⟨_, after, rfl, hafter, hdouble.trans h⟩
      · exact absurd h (by simp)
  · rw [decode_number htokens] at h
    exact absurd h (by simp [Node.double, bind, Except.bind])

/-- What is read in place of the printed form, in front of whatever may follow it. -/
theorem exists_leaf (h : ReadsBack x) :
    ∃ leaf, (Node.number leaf).double = .ok x ∧ ∀ rest, Delimited rest →
      Token.ofText (Amount.text x ++ rest) = .number leaf :: Token.ofText rest := by
  have hread (c : Char) (digits text : List Char) (negative : Bool)
      (htext : Amount.text x = c :: digits) (hblank : Token.isBlank c = false)
      (hnext : ∀ rest, Token.next c (digits ++ rest) = Token.ofNumeral negative (text ++ rest)) :
      ∃ leaf, (Node.number leaf).double = .ok x ∧ ∀ rest, Delimited rest →
        Token.ofText (Amount.text x ++ rest) = .number leaf :: Token.ofText rest := by
    rw [ReadsBack, htext] at h
    obtain ⟨leaf, after, hnumeral, hafter, hdouble⟩ :=
      number_of_decode hblank (by simpa using hnext []) h
    refine ⟨leaf, hdouble, fun rest hrest => ?_⟩
    rw [htext, List.cons_append, Token.ofText_next hblank
      ((hnext rest).trans (Token.ofNumeral_append hnumeral hrest)),
      Token.ofText_append_of_eq_nil hafter]
  rcases Amount.text_cases x with hnull | ⟨c, rest, htext, hdigit⟩ | ⟨rest, htext⟩
  · rw [ReadsBack, hnull, decode_null] at h
    exact absurd h (by simp)
  · exact hread c rest (c :: rest) false htext (Token.next_of_isDigit hdigit []).1
      fun more => (Token.next_of_isDigit hdigit _).2
  · exact hread '-' rest rest true htext rfl fun more => rfl

end ReadsBack

/-- The number that the printed form of a double is read as. -/
def Amount.leaf (x : Float) : Leaf Number :=
  match Token.ofText (Amount.text x) with
  | .number leaf :: _ => leaf
  | _ => ⟨.error .malformed, .error .malformed⟩

namespace ReadsBack

variable {x : Float}

theorem leaf_eq (h : ReadsBack x) :
    (Node.number (Amount.leaf x)).double = .ok x ∧ ∀ rest, Delimited rest →
      Token.ofText (Amount.text x ++ rest) = .number (Amount.leaf x) :: Token.ofText rest := by
  obtain ⟨leaf, hdouble, htokens⟩ := h.exists_leaf
  have hleaf : Amount.leaf x = leaf := by
    have htext := htokens [] (by simp [Delimited])
    rw [List.append_nil, Token.ofText_nil] at htext
    rw [Amount.leaf, htext]
  rw [hleaf]
  exact ⟨hdouble, htokens⟩

/-- No number is written for a double that is none. -/
theorem finite (h : ReadsBack x) :
    ∃ negative mantissa exponent,
      Numeric.Double.ofBits x.toBits = .finite negative mantissa exponent := by
  cases hbits : Numeric.Double.ofBits x.toBits with
  | finite negative mantissa exponent => exact ⟨negative, mantissa, exponent, rfl⟩
  | notANumber | infinite _ =>
    rw [ReadsBack, Amount.text, hbits, Amount.ofDouble, decode_null] at h
    exact absurd h (by simp)

end ReadsBack

end Throughput.Json
