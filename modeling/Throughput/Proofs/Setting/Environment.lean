import Mathlib.Data.List.Induction
import Throughput.Proofs.Setting.Merge
import Throughput.Setting.Environment

/-!
# Settings of the environment

Of several variables that name one path the last one counts. A variable names a key of a section by
the two with two underscores between them, behind the name of the program, in any case.
-/

namespace Throughput.Setting.Environment

/-- The value of the last variable that names a path. -/
def last? (path : List String) (environment : List Variable) : Option Setting :=
  (environment.filter fun entry => path? entry.1 = some path).getLast?.map fun entry =>
    Inline.parse entry.2

/-- Whatever the variables name is either the path itself, and then no table, or apart from it. -/
def Clears (path : List String) (environment : List Variable) : Prop :=
  ∀ entry ∈ environment, ∀ other, path? entry.1 = some other →
    other = path ∧ (∀ entries, Inline.parse entry.2 ≠ .table entries) ∨ Apart other path

theorem settings_concat (environment : List Variable) (entry : Variable) :
    settings (environment ++ [entry]) =
      (setting? entry).elim (settings environment) (merge (settings environment)) := by
  rw [settings, List.filterMap_append, List.foldl_append]
  cases hsetting : setting? entry <;> simp [settings, hsetting]

theorem last?_concat (path : List String) (environment : List Variable) (entry : Variable) :
    last? path (environment ++ [entry]) =
      if path? entry.1 = some path then some (Inline.parse entry.2)
      else last? path environment := by
  rw [last?, List.filter_append]
  by_cases hpath : path? entry.1 = some path <;> simp [last?, hpath]

theorem settings_along {path : List String} (hpath : path ≠ []) {environment : List Variable}
    (h : Clears path environment) :
    Along Distinct path (settings environment) ∧
      (settings environment).at? path = last? path environment := by
  -- From the right, as the last variable is the last one to be merged.
  induction environment using List.reverseRecOn with
  | nil =>
    obtain ⟨key, path, rfl⟩ := List.exists_cons_of_ne_nil hpath
    exact ⟨⟨List.nodup_nil, fun inner hlookup => by cases hlookup⟩, rfl⟩
  | append_singleton environment entry ih =>
    obtain ⟨halong, hat⟩ := ih fun other hmem => h other (List.mem_append_left _ hmem)
    have hentry := h entry (List.mem_append_right _ List.mem_cons_self)
    rw [settings_concat, last?_concat]
    cases hother : path? entry.1 with
    | none =>
      have hnone : setting? entry = none := by rw [setting?, hother]; rfl
      rw [hnone, if_neg (Option.some_ne_none path).symm]
      exact ⟨halong, hat⟩
    | some other =>
      have hsome : setting? entry = some (nest other (Inline.parse entry.2)) := by
        rw [setting?, hother]
        rfl
      have hplace := hentry other hother
      have hnest : Along Distinct path (nest other (Inline.parse entry.2)) :=
        along_nest (hplace.imp And.left id) _
      rw [hsome, Option.elim_some, at?_merge hnest halong]
      refine ⟨along_merge hnest (fun old new hold => hold.mergeEntries new) halong hnest, ?_⟩
      rcases hplace with ⟨rfl, hplain⟩ | hapart
      · rw [if_pos rfl, at?_nest_self]
        cases (settings environment).at? other with
        | none => rfl
        | some old => exact congrArg some (merge_of_not_table hplain old)
      · have hne : ¬ some other = some path := by
          rintro hsame
          cases hsame
          exact hapart.irrefl
        rw [at?_nest_apart hapart, overlay_none_left, if_neg hne, hat]

end Throughput.Setting.Environment
