import Mathlib.Data.Bool.Count
import Mathlib.Data.List.Basic
import Throughput.Proofs.Latch

/-!
# Latches under any reports

What a latch answers to each of a list of reports, however long the list is. It answers the report
that completes the count with the tally of the reports so far, and from then on nothing changes it.
The order in which the counted reports came never shows.
-/

namespace Throughput

open Dialogue

def Tally.ofReports (reports : List Bool) : Tally :=
  ⟨reports.count true, reports.count false⟩

namespace Tally

variable {reports other : List Bool}

theorem succeeded_add_failed_ofReports :
    (ofReports reports).succeeded + (ofReports reports).failed = reports.length :=
  List.count_true_add_count_false reports

theorem noneSucceeded_ofReports :
    (ofReports reports).noneSucceeded = true ↔ ∀ report ∈ reports, report = false := by
  rw [noneSucceeded, decide_eq_true_iff, ofReports, List.count_eq_zero]
  constructor
  · intro hnone report hmem
    exact Bool.eq_false_iff.mpr fun htrue => hnone (htrue ▸ hmem)
  · intro hall hmem
    exact Bool.noConfusion (hall true hmem)

theorem ofReports_perm (h : reports.Perm other) : ofReports reports = ofReports other := by
  rw [ofReports, ofReports, h.count_eq, h.count_eq]

end Tally

namespace Latch

section Fired

variable {latch : Latch}

/-- A latch answers a report exactly where the report makes it fire. -/
theorem isSome_record_iff (success : Bool) :
    (latch.record success).2.isSome = true ↔
      latch.fired = false ∧ (latch.record success).1.fired = true := by
  by_cases hfired : latch.fired = true
  · simp [record_of_fired hfired, hfired]
  · by_cases hlast : (latch.count success).succeeded + (latch.count success).failed =
        latch.expected <;>
      simp [record, hfired, hlast]

theorem after_of_fired (h : latch.fired = true) (reports : List Bool) :
    after record latch reports = latch := by
  refine after_preserves (fun later => later = latch) ?_ rfl reports
  rintro _ success rfl
  rw [record_of_fired h]

end Fired

section Expected

variable {expected : Nat} (hexpected : 0 < expected)
include hexpected

/-- Only the first reports count, as many as are expected. -/
theorem after_ofExpected (reports : List Bool) :
    after record (ofExpected expected) reports =
      ofCounts expected ((reports.take expected).count true)
        ((reports.take expected).count false) := by
  have hroom : 0 + 0 + (reports.take expected).length ≤ expected := by
    rw [List.length_take]
    omega
  have hcounted := after_ofCounts hroom
  rw [ofCounts_zero hexpected, Nat.zero_add, Nat.zero_add] at hcounted
  conv_lhs => rw [← List.take_append_drop expected reports, after_append, hcounted]
  by_cases hlong : expected ≤ reports.length
  · apply after_of_fired
    apply decide_eq_true
    rw [List.count_true_add_count_false, List.length_take, Nat.min_eq_left hlong]
  · rw [List.drop_of_length_le (by omega), after_nil]

theorem fired_after_ofExpected (reports : List Bool) :
    (after record (ofExpected expected) reports).fired = true ↔ expected ≤ reports.length := by
  rw [after_ofExpected hexpected]
  simp only [ofCounts, decide_eq_true_iff, List.count_true_add_count_false, List.length_take]
  omega

theorem tally_after_ofExpected (reports : List Bool) :
    (after record (ofExpected expected) reports).tally =
      Tally.ofReports (reports.take expected) := by
  rw [after_ofExpected hexpected]
  rfl

theorem record_after_ofExpected (before : List Bool) (success : Bool) :
    ((after record (ofExpected expected) before).record success).2 =
      if before.length + 1 = expected then some (Tally.ofReports (before ++ [success]))
      else none := by
  by_cases hopen : before.length < expected
  · have hcounts : before.count true + before.count false = before.length :=
      List.count_true_add_count_false before
    rw [after_ofExpected hexpected, List.take_of_length_le (Nat.le_of_lt hopen),
      record_ofCounts (by omega), hcounts, Tally.ofReports, List.count_append, List.count_append]
    cases success <;> rfl
  · have hfired := (fired_after_ofExpected hexpected before).mpr (Nat.le_of_not_lt hopen)
    rw [record_of_fired hfired, if_neg (by omega)]

theorem answers_ofExpected {reports : List Bool} {place : Nat} (hplace : place < reports.length) :
    (answers record (ofExpected expected) reports)[place]? =
      some (if place + 1 = expected then some (Tally.ofReports (reports.take expected))
        else none) := by
  rw [getElem?_answers, List.getElem?_eq_getElem hplace, Option.map_some,
    record_after_ofExpected hexpected, List.length_take, Nat.min_eq_left (Nat.le_of_lt hplace),
    List.take_append_getElem hplace]
  by_cases hlast : place + 1 = expected
  · rw [if_pos hlast, if_pos hlast, hlast]
  · rw [if_neg hlast, if_neg hlast]

end Expected

/-! ### A latch that has missed its count -/

/-- A latch that expects no more than it has counted, and has not fired. -/
structure Missed (latch : Latch) : Prop where
  unfired : latch.fired = false
  past : latch.expected ≤ latch.succeeded + latch.failed

theorem Missed.record_eq {latch : Latch} (h : latch.Missed) (success : Bool) :
    latch.record success = (latch.count success, none) := by
  have hne : (latch.count success).succeeded + (latch.count success).failed ≠ latch.expected := by
    have hpast := h.past
    rw [succeeded_add_failed_count]
    omega
  simp [record, h.unfired, hne]

theorem Missed.record {latch : Latch} (h : latch.Missed) (success : Bool) :
    (latch.record success).1.Missed := by
  rw [h.record_eq]
  constructor
  · exact (fired_count latch success).trans h.unfired
  · rw [expected_count, succeeded_add_failed_count]
    exact Nat.le_succ_of_le h.past

theorem Missed.answers_eq {latch : Latch} (h : latch.Missed) (reports : List Bool) :
    answers Latch.record latch reports = List.replicate reports.length none := by
  induction reports generalizing latch with
  | nil => rfl
  | cons success rest ih =>
    rw [answers, ih (h.record success), h.record_eq]
    rfl

theorem missed_ofExpected_zero : (ofExpected 0).Missed :=
  ⟨rfl, Nat.le_refl 0⟩

/-! ### What a latch makes of its reports -/

/-- What a latch that expects so many reports makes of a list of them. -/
structure FiresOnce (expected : Nat) (reports : List Bool) : Prop where
  /-- The report that completes the count is answered, and no other. -/
  answered (place : Nat) : place < reports.length →
    (answers record (ofExpected expected) reports)[place]? =
      some (if place + 1 = expected then some (Tally.ofReports (reports.take expected)) else none)
  total : expected ≤ reports.length →
    (Tally.ofReports (reports.take expected)).succeeded +
      (Tally.ofReports (reports.take expected)).failed = expected
  noneSucceeded_iff : (Tally.ofReports (reports.take expected)).noneSucceeded = true ↔
    ∀ report ∈ reports.take expected, report = false
  complete_iff :
    (after record (ofExpected expected) reports).fired = true ↔ expected ≤ reports.length
  tally_eq : (after record (ofExpected expected) reports).tally =
    Tally.ofReports (reports.take expected)
  late (more : List Bool) : expected ≤ reports.length →
    after record (ofExpected expected) (reports ++ more) =
      after record (ofExpected expected) reports
  orderless (first other rest : List Bool) : reports = first ++ rest → first.length = expected →
    first.Perm other →
    after record (ofExpected expected) (other ++ rest) =
        after record (ofExpected expected) reports ∧
      answers record (ofExpected expected) (other ++ rest) =
        answers record (ofExpected expected) reports

section Orderless

variable {expected : Nat} (hexpected : 0 < expected) {first other : List Bool}
  (hlength : first.length = expected) (hperm : first.Perm other) (rest : List Bool)
include hexpected hlength hperm

theorem after_perm :
    after record (ofExpected expected) (other ++ rest) =
      after record (ofExpected expected) (first ++ rest) := by
  have hother : other.length = expected := hperm.length_eq.symm.trans hlength
  rw [after_ofExpected hexpected, after_ofExpected hexpected, List.take_left' hother,
    List.take_left' hlength, hperm.count_eq, hperm.count_eq]

theorem answers_perm :
    answers record (ofExpected expected) (other ++ rest) =
      answers record (ofExpected expected) (first ++ rest) := by
  have hother : other.length = expected := hperm.length_eq.symm.trans hlength
  have hsame : (other ++ rest).length = (first ++ rest).length := by
    rw [List.length_append, List.length_append, hother, hlength]
  apply List.ext_getElem?'
  intro place hplace
  rw [length_answers, length_answers, hsame, Nat.max_self] at hplace
  rw [answers_ofExpected hexpected hplace, answers_ofExpected hexpected (hsame ▸ hplace),
    List.take_left' hother, List.take_left' hlength, Tally.ofReports_perm hperm]

end Orderless

/-- A latch answers exactly one report, the one that completes the count, and tells what it counted
until then. One that expects none never answers. -/
theorem reports_fire_once (reports : List Bool) :
    (∀ expected, 0 < expected → FiresOnce expected reports) ∧
      answers record (ofExpected 0) reports = List.replicate reports.length none ∧
      (after record (ofExpected 0) reports).fired = false := by
  refine ⟨fun expected hexpected => ?_, missed_ofExpected_zero.answers_eq reports, ?_⟩
  · refine {
      answered := fun place hplace => answers_ofExpected hexpected hplace
      total := fun hlong => ?_
      noneSucceeded_iff := Tally.noneSucceeded_ofReports
      complete_iff := fired_after_ofExpected hexpected reports
      tally_eq := tally_after_ofExpected hexpected reports
      late := fun more hlong => ?_
      orderless := ?_ }
    · rw [Tally.succeeded_add_failed_ofReports, List.length_take, Nat.min_eq_left hlong]
    · rw [after_append]
      exact after_of_fired ((fired_after_ofExpected hexpected reports).mpr hlong) more
    · rintro first other rest rfl hlength hperm
      exact ⟨after_perm hexpected hlength hperm rest, answers_perm hexpected hlength hperm rest⟩
  · exact (after_preserves Missed (fun _ success h => h.record success) missed_ofExpected_zero
      reports).unfired

/-- Three of five reports are counted. -/
theorem reports_fire_once_late_reports :
    0 < 3 ∧ answers record (ofExpected 3) [false, true, false, true, true] =
        [none, none, some ⟨1, 2⟩, none, none] ∧
      FiresOnce 3 [false, true, false, true, true] ∧
      answers record (ofExpected 3) ([false, false, true] ++ [true, true]) =
        answers record (ofExpected 3) [false, true, false, true, true] := by
  have hfires : FiresOnce 3 [false, true, false, true, true] :=
    (reports_fire_once [false, true, false, true, true]).1 3 (by decide)
  have hperm : [false, true, false].Perm [false, false, true] := by decide
  exact ⟨by decide, by decide, hfires, (hfires.orderless _ _ [true, true] rfl rfl hperm).2⟩

end Latch

end Throughput
