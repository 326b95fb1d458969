import Mathlib.Algebra.BigOperators.Group.List.Basic
import Mathlib.Algebra.GroupWithZero.Nat
import Throughput.Proofs.Budget

/-!
# Histories of charges

Charges that are made one after the other. A charge either ends up in what is used or leaves no
trace, so what is used grows by exactly the charges that fitted when they were made. Being inactive
changes only what is answered: an inactive allowance accepts every charge, and counts the ones that
an active allowance would count.
-/

namespace Throughput.Allowance

open Numeric

/-- Both amounts fit into the 64-bit words that hold them. -/
structure InWords (allowance : Allowance) : Prop where
  available : allowance.available ≤ maxWord64
  used : allowance.used ≤ maxWord64

/-- Does the charge end up in what is used? -/
def Adds (allowance : Allowance) (bytes : Nat) : Prop :=
  (allowance.charge bytes).1 = allowance.withUsed (allowance.used + bytes)

instance (allowance : Allowance) (bytes : Nat) : Decidable (allowance.Adds bytes) :=
  inferInstanceAs (Decidable (_ = _))

/-- The allowance after a history of charges. -/
def after (allowance : Allowance) : List Nat → Allowance
  | [] => allowance
  | bytes :: rest => (allowance.charge bytes).1.after rest

/-- The charges of a history that end up in what is used. -/
def added (allowance : Allowance) : List Nat → List Nat
  | [] => []
  | bytes :: rest =>
    let later := (allowance.charge bytes).1.added rest
    if allowance.Adds bytes then bytes :: later else later

/-! ## One charge -/

section Charge

variable {allowance : Allowance} {bytes : Nat}

theorem adds_iff : allowance.Adds bytes ↔ bytes ≤ allowance.remaining := by
  constructor
  · intro hadds
    by_contra hlarge
    have hlt : allowance.remaining < bytes := Nat.lt_of_not_le hlarge
    have hused : allowance.used = allowance.used + bytes := by
      rw [Adds, charge_of_lt hlt] at hadds
      exact congrArg used hadds
    omega
  · intro hfits
    rw [Adds, charge_of_le hfits]

theorem charge_of_adds (h : allowance.Adds bytes) :
    allowance.charge bytes = (allowance.withUsed (allowance.used + bytes), true) :=
  charge_of_le (adds_iff.mp h)

theorem charge_of_not_adds (h : ¬ allowance.Adds bytes) :
    allowance.charge bytes = (allowance, !allowance.active) :=
  charge_of_lt (Nat.lt_of_not_le fun hfits => h (adds_iff.mpr hfits))

theorem accepted_iff :
    (allowance.charge bytes).2 = true ↔ allowance.Adds bytes ∨ allowance.active = false := by
  by_cases hadds : allowance.Adds bytes
  · simp [charge_of_adds hadds, hadds]
  · simp [charge_of_not_adds hadds, hadds]

@[simp]
theorem available_charge : (allowance.charge bytes).1.available = allowance.available := by
  unfold charge
  split <;> rfl

@[simp]
theorem active_charge : (allowance.charge bytes).1.active = allowance.active := by
  unfold charge
  split <;> rfl

theorem remaining_charge_of_adds (h : allowance.Adds bytes) :
    (allowance.charge bytes).1.remaining = allowance.remaining - bytes := by
  rw [charge_of_adds h]
  exact allowance.remaining_withUsed bytes

theorem remaining_charge_le : (allowance.charge bytes).1.remaining ≤ allowance.remaining := by
  by_cases hadds : allowance.Adds bytes
  · rw [remaining_charge_of_adds hadds]
    exact Nat.sub_le _ _
  · exact Nat.le_of_eq (by rw [charge_of_not_adds hadds])

/-- What is used passes what is available only where it did so before. -/
theorem used_charge_le :
    (allowance.charge bytes).1.used ≤ max allowance.used allowance.available := by
  by_cases hadds : allowance.Adds bytes
  · have hfits := adds_iff.mp hadds
    have hused : (allowance.charge bytes).1.used = allowance.used + bytes := by
      rw [charge_of_adds hadds]
      rfl
    rw [remaining] at hfits
    omega
  · rw [charge_of_not_adds hadds]
    exact Nat.le_max_left _ _

theorem InWords.charge (h : allowance.InWords) : (allowance.charge bytes).1.InWords := by
  constructor
  · rw [available_charge]
    exact h.available
  · exact Nat.le_trans used_charge_le (Nat.max_le.mpr ⟨h.used, h.available⟩)

theorem charge_withActive (active : Bool) :
    ((allowance.withActive active).charge bytes).1 =
      (allowance.charge bytes).1.withActive active := by
  unfold Allowance.charge
  have hremaining : (allowance.withActive active).remaining = allowance.remaining := rfl
  rw [hremaining]
  split <;> rfl

end Charge

/-! ## All charges of a history -/

section History

variable {allowance : Allowance}

theorem after_append (charges more : List Nat) :
    allowance.after (charges ++ more) = (allowance.after charges).after more := by
  induction charges generalizing allowance with
  | nil => rfl
  | cons bytes charges ih => exact ih

theorem InWords.after (h : allowance.InWords) (charges : List Nat) :
    (allowance.after charges).InWords := by
  induction charges generalizing allowance with
  | nil => exact h
  | cons bytes charges ih => exact ih h.charge

@[simp]
theorem available_after (charges : List Nat) :
    (allowance.after charges).available = allowance.available := by
  induction charges generalizing allowance with
  | nil => rfl
  | cons bytes charges ih => exact ih.trans available_charge

@[simp]
theorem active_after (charges : List Nat) :
    (allowance.after charges).active = allowance.active := by
  induction charges generalizing allowance with
  | nil => rfl
  | cons bytes charges ih => exact ih.trans active_charge

theorem after_withActive (active : Bool) (charges : List Nat) :
    (allowance.withActive active).after charges = (allowance.after charges).withActive active := by
  induction charges generalizing allowance with
  | nil => rfl
  | cons bytes charges ih => rw [after, after, charge_withActive, ih]

theorem used_after (charges : List Nat) :
    (allowance.after charges).used = allowance.used + (allowance.added charges).sum := by
  induction charges generalizing allowance with
  | nil => rfl
  | cons bytes charges ih =>
    rw [after, ih, added]
    by_cases hadds : allowance.Adds bytes
    · rw [if_pos hadds, List.sum_cons, ← Nat.add_assoc]
      congr 1
      rw [charge_of_adds hadds]
      rfl
    · rw [if_neg hadds, charge_of_not_adds hadds]

theorem used_after_le (h : allowance.used ≤ allowance.available) (charges : List Nat) :
    (allowance.after charges).used ≤ allowance.available := by
  induction charges generalizing allowance with
  | nil => exact h
  | cons bytes charges ih =>
    have hcharged : (allowance.charge bytes).1.used ≤ (allowance.charge bytes).1.available := by
      rw [available_charge]
      exact Nat.le_trans used_charge_le (Nat.max_le.mpr ⟨h, Nat.le_refl _⟩)
    rw [← @available_charge allowance bytes]
    exact ih hcharged

theorem remaining_after_le (charges : List Nat) :
    (allowance.after charges).remaining ≤ allowance.remaining := by
  induction charges generalizing allowance with
  | nil => exact Nat.le_refl _
  | cons bytes charges ih => exact Nat.le_trans ih remaining_charge_le

/-- Together the added charges fit as well. -/
theorem sum_added_le (charges : List Nat) :
    (allowance.added charges).sum ≤ allowance.remaining := by
  induction charges generalizing allowance with
  | nil => exact Nat.zero_le _
  | cons bytes charges ih =>
    rw [added]
    by_cases hadds : allowance.Adds bytes
    · have hlater := @ih (allowance.charge bytes).1
      have hfits := adds_iff.mp hadds
      rw [remaining_charge_of_adds hadds] at hlater
      rw [if_pos hadds, List.sum_cons]
      omega
    · rw [if_neg hadds, charge_of_not_adds hadds]
      exact ih

theorem added_eq_self {charges : List Nat} (h : charges.sum ≤ allowance.remaining) :
    allowance.added charges = charges := by
  induction charges generalizing allowance with
  | nil => rfl
  | cons bytes charges ih =>
    rw [List.sum_cons] at h
    have hadds : allowance.Adds bytes := adds_iff.mpr (by omega)
    have hrest : charges.sum ≤ (allowance.charge bytes).1.remaining := by
      rw [remaining_charge_of_adds hadds]
      omega
    rw [added, if_pos hadds, ih hrest]

end History

/-! ## What a history settles -/

/-- What one charge does: it is added if it fits into what remains, and changes nothing if it does
not. The sum stays in its word. -/
structure Takes (allowance : Allowance) (bytes : Nat) : Prop where
  added_iff : allowance.Adds bytes ↔ bytes ≤ allowance.available - allowance.used
  unchanged : ¬ allowance.Adds bytes → (allowance.charge bytes).1 = allowance
  accepted_iff :
    (allowance.charge bytes).2 = true ↔ allowance.Adds bytes ∨ allowance.active = false
  sum_inWord : allowance.Adds bytes → allowance.used + bytes ≤ maxWord64
  inWords : (allowance.charge bytes).1.InWords

/-- How an allowance stands after a history of charges. -/
structure Balances (allowance : Allowance) (charges : List Nat) : Prop where
  available_eq : (allowance.after charges).available = allowance.available
  used_le : (allowance.after charges).used ≤ allowance.available
  balance :
    (allowance.after charges).remaining + (allowance.after charges).used = allowance.available
  used_eq : (allowance.after charges).used = allowance.used + (allowance.added charges).sum
  remaining_le (more : List Nat) :
    (allowance.after (charges ++ more)).remaining ≤ (allowance.after charges).remaining

theorem InWords.takes {allowance : Allowance} (h : allowance.InWords) (bytes : Nat) :
    allowance.Takes bytes := by
  refine ⟨adds_iff, fun hnot => ?_, accepted_iff, fun hadds => ?_, h.charge⟩
  · rw [charge_of_not_adds hnot]
  · have hcharged := (@InWords.charge _ bytes h).used
    rwa [charge_of_adds hadds] at hcharged

/-- Every charge on any allowance, at every point of any history, is taken as a whole or leaves
everything as it is. If no more than all was used before, what is used and what remains always make
up what is available. -/
theorem charges_balance {allowance : Allowance} (h : allowance.InWords) :
    (∀ charges bytes, (allowance.after charges).Takes bytes) ∧
    (allowance.used ≤ allowance.available → ∀ charges, allowance.Balances charges) := by
  refine ⟨fun charges bytes => (h.after charges).takes bytes, fun hused charges => ?_⟩
  have hle := used_after_le hused charges
  refine ⟨available_after charges, hle, ?_, used_after charges, fun more => ?_⟩
  · rw [remaining, available_after]
    exact Nat.sub_add_cancel hle
  · rw [after_append]
    exact remaining_after_le more

/-- At the end of the words: the second and the last charge do not fit. -/
theorem charges_balance_full :
    let allowance : Allowance := ⟨maxWord64, maxWord64 - 10, true⟩
    allowance.InWords ∧ allowance.used ≤ allowance.available ∧
      allowance.added [6, 5, 4, 0, 1] = [6, 4, 0] ∧
      allowance.after [6, 5, 4, 0, 1] = ⟨maxWord64, maxWord64, true⟩ ∧
      (allowance.after [6]).Takes 5 ∧ allowance.Balances [6, 5, 4, 0, 1] := by
  intro allowance
  have hwords : allowance.InWords := ⟨by decide, by decide⟩
  have hused : allowance.used ≤ allowance.available := by decide
  exact ⟨hwords, hused, by decide, by decide, (charges_balance hwords).1 [6] 5,
    (charges_balance hwords).2 hused _⟩

/-! ## Inactive allowances -/

/-- What an inactive allowance makes of a history of charges. -/
structure Tolerates (allowance : Allowance) (charges : List Nat) : Prop where
  accepted (before : List Nat) (bytes : Nat) : before ++ [bytes] <+: charges →
    ((allowance.after before).charge bytes).2 = true
  used_eq : (allowance.after charges).used = allowance.used + (allowance.added charges).sum
  counts_all_iff :
    (allowance.after charges).used = allowance.used + charges.sum ↔
      charges.sum ≤ allowance.remaining
  reactivated :
    (allowance.after charges).withActive true = (allowance.withActive true).after charges

/-- An inactive allowance accepts every charge. It counts the charges that fit when they are made,
as it would if it were active, and so all of them exactly if they fit together. -/
theorem inactive_tolerates {allowance : Allowance} (h : allowance.active = false)
    (charges : List Nat) : allowance.Tolerates charges := by
  have hused := @used_after allowance charges
  refine ⟨fun before bytes _ => ?_, hused, ?_, (after_withActive true charges).symm⟩
  · exact accepted_iff.mpr (.inr ((active_after before).trans h))
  · constructor
    · intro hall
      have hsum := @sum_added_le allowance charges
      omega
    · intro hfits
      rw [hused, added_eq_self hfits]

/-- The charge in the middle does not fit. It is accepted, and seen by nobody later. -/
theorem inactive_tolerates_some :
    let allowance : Allowance := ⟨10, 3, false⟩
    allowance.active = false ∧ allowance.added [5, 4, 2] = [5, 2] ∧
      allowance.after [5, 4, 2] = ⟨10, 10, false⟩ ∧ allowance.Tolerates [5, 4, 2] := by
  intro allowance
  have hinactive : allowance.active = false := rfl
  exact ⟨hinactive, by decide, by decide, inactive_tolerates hinactive _⟩

/-- An allowance of nothing forgets five bytes while it is inactive. -/
theorem not_inactive_counts_all :
    ¬ ∀ (allowance : Allowance) (charges : List Nat), allowance.active = false →
      allowance.used + charges.sum ≤ maxWord64 →
      (∀ before bytes, before ++ [bytes] <+: charges →
        ((allowance.after before).charge bytes).2 = true) ∧
      (allowance.after charges).used = allowance.used + charges.sum := by
  intro hcounts
  have hused := (hcounts initial [5] rfl (by decide)).2
  revert hused
  decide

end Throughput.Allowance
