import Throughput.Text.Digits
import Throughput.Text.Fields

/-!
# Visible texts

Texts without blanks, controls and characters outside ASCII.
-/

namespace Throughput.Text

def Visible (text : List Char) : Prop :=
  ∀ c ∈ text, 0x21 ≤ c.toNat ∧ c.toNat ≤ 0x7E

instance (text : List Char) : Decidable (Visible text) :=
  List.decidableBAll (fun c : Char => 0x21 ≤ c.toNat ∧ c.toNat ≤ 0x7E) text

@[simp]
theorem visible_nil : Visible [] := by
  simp [Visible]

@[simp]
theorem visible_cons {c : Char} {text : List Char} :
    Visible (c :: text) ↔ (0x21 ≤ c.toNat ∧ c.toNat ≤ 0x7E) ∧ Visible text := by
  simp [Visible]

@[simp]
theorem visible_append {left right : List Char} :
    Visible (left ++ right) ↔ Visible left ∧ Visible right := by
  simp only [Visible, List.mem_append]
  constructor
  · exact fun h => ⟨fun c hc => h c (.inl hc), fun c hc => h c (.inr hc)⟩
  · exact fun h c hc => hc.elim (h.1 c) (h.2 c)

theorem visible_of_isAlphanum {c : Char} (h : c.isAlphanum = true) :
    0x21 ≤ c.toNat ∧ c.toNat ≤ 0x7E := by
  have hranges : (65 ≤ c.toNat ∧ c.toNat ≤ 90 ∨ 97 ≤ c.toNat ∧ c.toNat ≤ 122) ∨
      48 ≤ c.toNat ∧ c.toNat ≤ 57 := by
    rcases Bool.or_eq_true_iff.mp h with halpha | hdigit
    · rcases Bool.or_eq_true_iff.mp halpha with hupper | hlower
      · exact .inl (.inl (of_decide_eq_true hupper))
      · obtain ⟨hlow, hhigh⟩ := Bool.and_eq_true_iff.mp hlower
        exact .inl (.inr ⟨of_decide_eq_true hlow, of_decide_eq_true hhigh⟩)
    · obtain ⟨hlow, hhigh⟩ := Bool.and_eq_true_iff.mp hdigit
      exact .inr ⟨of_decide_eq_true hlow, of_decide_eq_true hhigh⟩
  omega

theorem Visible.flatMap {α : Type} {parts : List α} {write : α → List Char}
    (h : ∀ part ∈ parts, Visible (write part)) : Visible (parts.flatMap write) := by
  intro c hc
  obtain ⟨part, hpart, hc⟩ := List.mem_flatMap.mp hc
  exact h part hpart c hc

theorem Visible.joinWith {separator : Char} (hseparator : Visible [separator])
    {fields : List (List Char)} (hfields : ∀ field ∈ fields, Visible field) :
    Visible (joinWith separator fields) := by
  induction fields using Text.joinWith.induct with
  | case1 => simp [Text.joinWith]
  | case2 field => exact hfields field (List.mem_singleton_self field)
  | case3 field rest _ ih =>
    have hrest : Visible (Text.joinWith separator rest) :=
      ih fun part hpart => hfields part (List.mem_cons_of_mem _ hpart)
    have hhead : Visible field := hfields field List.mem_cons_self
    rw [Text.joinWith]
    · exact visible_append.mpr ⟨hhead, visible_append.mpr ⟨hseparator, hrest⟩⟩
    · assumption

theorem visible_digitChar {digit : Nat} (h : digit < 16) : Visible [Nat.digitChar digit] := by
  revert digit
  decide

theorem visible_toDigits {base : Nat} (hlow : 1 < base) (hhigh : base ≤ 16) (n : Nat) :
    Visible (Nat.toDigits base n) := by
  induction n using Nat.strongRecOn with
  | ind n ih =>
    rw [Nat.toDigits_eq_if hlow]
    split
    · exact visible_digitChar (by omega)
    · next hlarge =>
      have hshrinks : n / base < n := Nat.div_lt_self (by omega) hlow
      have hdigit : n % base < base := Nat.mod_lt n (by omega)
      exact visible_append.mpr ⟨ih _ hshrinks, visible_digitChar (by omega)⟩

theorem visible_decimal (n : Nat) : Visible (decimal n) :=
  visible_toDigits (by decide) (by decide) n

theorem visible_hex (n : Nat) : Visible (hex n) :=
  visible_toDigits (by decide) (by decide) n

theorem visible_padded (width n : Nat) : Visible (padded width n) := by
  have hzeros (count : Nat) : Visible (List.replicate count '0') := by
    intro c hc
    rw [(List.mem_replicate.mp hc).2]
    decide
  exact visible_append.mpr ⟨hzeros _, visible_decimal n⟩

end Throughput.Text
