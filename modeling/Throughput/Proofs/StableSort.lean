import Mathlib.Data.List.Basic

/-!
# Sorting by a key

A sort that leaves equal keys in their order is settled by its keys, so it commutes with everything
that picks elements and keeps their keys.
-/

namespace Throughput

section Keys

variable {α β : Type} {key : α → Nat}

abbrev Ascending (key : α → Nat) (elements : List α) : Prop :=
  elements.Pairwise fun left right => key left ≤ key right

theorem Ascending.le_of_before {before after : List α} {last : α}
    (h : Ascending key (before ++ last :: after)) : ∀ element ∈ before, key element ≤ key last := by
  intro element hmem
  exact (List.pairwise_append.mp h).2.2 element hmem last List.mem_cons_self

theorem Ascending.le_of_after {before after : List α} {first : α}
    (h : Ascending key (before ++ first :: after)) : ∀ element ∈ after, key first ≤ key element :=
  (List.pairwise_cons.mp (List.pairwise_append.mp h).2.1).1

/-- In ascending order nothing is reached once something was not. -/
theorem Ascending.filter_eq_nil {reached : Nat → Bool}
    (hdown : ∀ early late, early ≤ late → reached late → reached early) {first : α}
    {rest : List α} (h : Ascending key (first :: rest)) (hfirst : reached (key first) = false) :
    (first :: rest).filter (fun element => reached (key element)) = [] := by
  rw [List.filter_eq_nil_iff]
  intro element hmem hreached
  have hle : key first ≤ key element := by
    rcases List.mem_cons.mp hmem with rfl | hlater
    · exact Nat.le_refl _
    · exact (List.pairwise_cons.mp h).1 element hlater
  exact Bool.false_ne_true (hfirst.symm.trans (hdown _ _ hle hreached))

/-- Sorted by a key, and without changing the order of equal ones. -/
abbrev sortBy (key : α → Nat) (elements : List α) : List α :=
  elements.mergeSort fun left right => key left ≤ key right

theorem keyLe_trans (first second third : α) (hfirst : decide (key first ≤ key second) = true)
    (hsecond : decide (key second ≤ key third) = true) :
    decide (key first ≤ key third) = true :=
  decide_eq_true (Nat.le_trans (of_decide_eq_true hfirst) (of_decide_eq_true hsecond))

theorem keyLe_total (left right : α) :
    (decide (key left ≤ key right) || decide (key right ≤ key left)) = true := by
  simpa using Nat.le_total (key left) (key right)

theorem ascending_sortBy (elements : List α) : Ascending key (sortBy key elements) := by
  have hsorted : (sortBy key elements).Pairwise fun left right =>
      decide (key left ≤ key right) = true :=
    List.pairwise_mergeSort keyLe_trans keyLe_total elements
  exact hsorted.imp of_decide_eq_true

theorem filter_sortBy (elements : List α) (value : Nat) :
    (sortBy key elements).filter (key · = value) = elements.filter (key · = value) := by
  induction elements with
  | nil => simp [sortBy]
  | cons element rest ih =>
    obtain ⟨before, after, hwhole, hrest, hbefore⟩ :=
      List.mergeSort_cons keyLe_trans (@keyLe_total _ key) element rest
    rw [sortBy, hwhole]
    rw [sortBy, hrest, List.filter_append] at ih
    by_cases hvalue : key element = value
    · have hnone : before.filter (key · = value) = [] := by
        rw [List.filter_eq_nil_iff]
        intro other hmem
        have hlt := hbefore other hmem
        simp only [Bool.not_eq_true', decide_eq_false_iff_not] at hlt
        simp only [decide_eq_true_iff]
        omega
      rw [hnone, List.nil_append] at ih
      rw [List.filter_append, hnone, List.nil_append, List.filter_cons_of_pos (by simpa),
        List.filter_cons_of_pos (by simpa), ih]
    · rw [List.filter_append, List.filter_cons_of_neg (by simpa),
        List.filter_cons_of_neg (by simpa), ih]

/-- The elements of each key, in their order, leave nothing open. -/
theorem eq_of_ascending {left right : List α} (hleft : Ascending key left)
    (hright : Ascending key right)
    (hsame : ∀ value, left.filter (key · = value) = right.filter (key · = value)) :
    left = right := by
  induction left generalizing right with
  | nil =>
    cases right with
    | nil => rfl
    | cons second rest => simpa using hsame (key second)
  | cons first rest ih =>
    cases right with
    | nil => simpa using hsame (key first)
    | cons second others =>
      obtain ⟨hfirst, hrest⟩ := List.pairwise_cons.mp hleft
      obtain ⟨hsecond, hothers⟩ := List.pairwise_cons.mp hright
      have hmem : ∀ element, element ∈ first :: rest ↔ element ∈ second :: others := by
        intro element
        have := congrArg (element ∈ ·) (hsame (key element))
        simpa only [List.mem_filter, decide_true, and_true, eq_iff_iff] using this
      -- Each head is among the elements of the other list, so neither key is below the other.
      have hkey : key first = key second := by
        apply Nat.le_antisymm
        · rcases List.mem_cons.mp ((hmem second).mpr List.mem_cons_self) with heq | hlater
          · exact Nat.le_of_eq (congrArg key heq.symm)
          · exact hfirst second hlater
        · rcases List.mem_cons.mp ((hmem first).mp List.mem_cons_self) with heq | hlater
          · exact Nat.le_of_eq (congrArg key heq.symm)
          · exact hsecond first hlater
      have hheads := hsame (key first)
      rw [List.filter_cons_of_pos (by simp), List.filter_cons_of_pos (by simp [hkey])] at hheads
      -- Both lists begin with the first element of that key.
      obtain ⟨rfl, -⟩ := List.cons.inj hheads
      congr 1
      apply ih hrest hothers
      intro value
      by_cases hvalue : key first = value
      · simpa [hvalue] using hsame value
      · simpa [hvalue] using hsame value

/-- What keeps the keys of the elements may as well come after a choice of keys. -/
theorem filter_keys_flatMap {other : β → Nat} {parts : α → List β}
    (hkey : ∀ element, ∀ part ∈ parts element, other part = key element) (keep : Nat → Bool)
    (elements : List α) :
    (elements.flatMap parts).filter (fun part => keep (other part)) =
      (elements.filter fun element => keep (key element)).flatMap parts := by
  induction elements with
  | nil => rfl
  | cons element rest ih =>
    rw [List.flatMap_cons, List.filter_append, ih]
    rw [List.filter_cons]
    split
    · next hkeep =>
      rw [List.flatMap_cons, List.filter_eq_self.mpr]
      intro part hpart
      rwa [hkey element part hpart]
    · next hdrop =>
      rw [List.filter_eq_nil_iff.mpr, List.nil_append]
      intro part hpart
      rwa [hkey element part hpart]

/-- What keeps the keys of the elements may as well come before the sort. -/
theorem flatMap_sortBy {other : β → Nat} {parts : α → List β}
    (hkey : ∀ element, ∀ part ∈ parts element, other part = key element) (elements : List α) :
    (sortBy key elements).flatMap parts = sortBy other (elements.flatMap parts) := by
  have hparts : Ascending other ((sortBy key elements).flatMap parts) := by
    refine List.pairwise_flatMap.mpr ⟨?_, (ascending_sortBy elements).imp ?_⟩
    · intro element _
      refine List.pairwise_of_forall_mem_list fun left hleft right hright => ?_
      exact Nat.le_of_eq ((hkey element left hleft).trans (hkey element right hright).symm)
    · intro left right hle leftPart hleft rightPart hright
      rw [hkey left leftPart hleft, hkey right rightPart hright]
      exact hle
  refine eq_of_ascending hparts (ascending_sortBy _) ?_
  intro value
  have hclass := filter_keys_flatMap hkey (· = value)
  rw [hclass, filter_sortBy, filter_sortBy, hclass]

/-- A pick that keeps the keys may as well come before the sort. -/
theorem filterMap_sortBy {other : β → Nat} {pick : α → Option β}
    (hkey : ∀ element picked, pick element = some picked → other picked = key element)
    (elements : List α) :
    (sortBy key elements).filterMap pick = sortBy other (elements.filterMap pick) := by
  simp only [List.filterMap_eq_flatMap_toList]
  exact flatMap_sortBy (fun element picked hmem => hkey element picked (Option.mem_toList.mp hmem))
    elements

theorem filter_keys_sortBy (keep : Nat → Bool) (elements : List α) :
    (sortBy key elements).filter (fun element => keep (key element)) =
      sortBy key (elements.filter fun element => keep (key element)) := by
  rw [← List.filterMap_eq_filter, filterMap_sortBy ?_, List.filterMap_eq_filter]
  intro element picked hpick
  rw [(Option.guard_eq_some_iff.mp hpick).1]

/-- What is due by some time, and what is not. -/
theorem Ascending.split {elements : List α} (h : Ascending key elements) (time : Nat) :
    elements = elements.filter (key · ≤ time) ++ elements.filter (time < key ·) := by
  induction elements with
  | nil => rfl
  | cons first rest ih =>
    obtain ⟨hfirst, hrest⟩ := List.pairwise_cons.mp h
    by_cases hdue : key first ≤ time
    · rw [List.filter_cons_of_pos (by simpa using hdue),
        List.filter_cons_of_neg (by simpa using hdue), List.cons_append, ← ih hrest]
    · have hlate : time < key first := Nat.not_le.mp hdue
      have hdown : ∀ early late, early ≤ late → decide (late ≤ time) = true →
          decide (early ≤ time) = true := by
        intro early late hle hdue
        exact decide_eq_true (Nat.le_trans hle (of_decide_eq_true hdue))
      have hnone : (first :: rest).filter (key · ≤ time) = [] :=
        Ascending.filter_eq_nil hdown h (decide_eq_false hdue)
      rw [hnone, List.nil_append, List.filter_eq_self.mpr]
      intro element hmem
      rcases List.mem_cons.mp hmem with rfl | hlater
      · exact decide_eq_true hlate
      · exact decide_eq_true (Nat.lt_of_lt_of_le hlate (hfirst element hlater))

/-- A class of keys is kept as a whole or not at all. -/
theorem filter_filter_key (keep : Nat → Bool) (elements : List α) (value : Nat) :
    (elements.filter fun element => keep (key element)).filter (key · = value) =
      if keep value then elements.filter (key · = value) else [] := by
  rw [List.filter_filter]
  split
  · next hkeep =>
    refine List.filter_congr fun element _ => ?_
    by_cases hvalue : key element = value <;> simp [hvalue, hkeep]
  · next hdrop =>
    refine List.filter_eq_nil_iff.mpr fun element _ => ?_
    by_cases hvalue : key element = value <;> simp [hvalue, hdrop]

/-- What is appended comes after all that is not later than it. -/
theorem sortBy_concat (elements : List α) (last : α) :
    sortBy key (elements ++ [last]) =
      (sortBy key elements).filter (key · ≤ key last) ++
        last :: (sortBy key elements).filter (key last < key ·) := by
  have hsorted : Ascending key (sortBy key elements) := ascending_sortBy elements
  refine eq_of_ascending (ascending_sortBy _) ?_ fun value => ?_
  · refine List.pairwise_append.mpr
      ⟨hsorted.filter _, List.pairwise_cons.mpr ⟨?_, hsorted.filter _⟩, ?_⟩
    · intro element hmem
      exact Nat.le_of_lt (of_decide_eq_true (List.mem_filter.mp hmem).2)
    · intro element hmem other hother
      have hle : key element ≤ key last := of_decide_eq_true (List.mem_filter.mp hmem).2
      rcases List.mem_cons.mp hother with rfl | hlater
      · exact hle
      · exact Nat.le_trans hle (Nat.le_of_lt (of_decide_eq_true (List.mem_filter.mp hlater).2))
  · have hearly := @filter_filter_key _ key (· ≤ key last) (sortBy key elements) value
    have hlate := @filter_filter_key _ key (key last < ·) (sortBy key elements) value
    simp only [List.filter_append, List.filter_cons, List.filter_nil, hearly, hlate, filter_sortBy]
    rcases Nat.lt_trichotomy value (key last) with hlt | rfl | hgt
    · simp [Nat.le_of_lt hlt, Nat.ne_of_gt hlt, Nat.lt_asymm hlt]
    · simp
    · simp [Nat.ne_of_lt hgt, Nat.not_le_of_lt hgt, hgt]

/-- What is nowhere later than the rest can be sorted apart from it. -/
theorem sortBy_append {early late : List α}
    (hle : ∀ first ∈ early, ∀ second ∈ late, key first ≤ key second) :
    sortBy key (early ++ late) = sortBy key early ++ sortBy key late := by
  refine eq_of_ascending (ascending_sortBy _) ?_ fun value => ?_
  · refine List.pairwise_append.mpr ⟨ascending_sortBy _, ascending_sortBy _, ?_⟩
    intro first hfirst second hsecond
    exact hle first (List.mem_mergeSort.mp hfirst) second (List.mem_mergeSort.mp hsecond)
  · simp only [List.filter_append, filter_sortBy]

/-- A map that keeps the order of the keys can be done first. -/
theorem map_sortBy {other : β → Nat} {f : α → β}
    (horder : ∀ left right, other (f left) ≤ other (f right) ↔ key left ≤ key right)
    (elements : List α) :
    (sortBy key elements).map f = sortBy other (elements.map f) :=
  List.map_mergeSort fun left _ right _ => decide_eq_decide.mpr (horder left right).symm

end Keys

end Throughput
