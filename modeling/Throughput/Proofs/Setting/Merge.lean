import Mathlib.Data.List.Nodup
import Throughput.Setting.Basic

/-!
# Settings along a path

What a merge of two layers holds at the end of a path of keys: what the later layer has there, and
else what the earlier one has. Both have to be tables along the path, as far as they go.
-/

namespace Throughput.Setting

/-- The setting at the end of a path of keys. -/
def at? : Setting → List String → Option Setting
  | setting, [] => some setting
  | .table entries, key :: path => (entries.lookup key).bind (at? · path)
  | _, _ :: _ => none

theorem at?_single (entries : Entries) (key : String) :
    (table entries).at? [key] = entries.lookup key := by
  simp [at?]

theorem at?_pair (setting : Setting) (group key : String) :
    setting.at? [group, key] = (setting.at? [group]).bind (at? · [key]) := by
  cases setting <;> simp [at?]

def Distinct (entries : Entries) : Prop :=
  (entries.map Prod.fst).Nodup

theorem distinct_singleton (key : String) (value : Setting) : Distinct [(key, value)] :=
  List.nodup_singleton key

theorem keys_put (entries : Entries) (key : String) (value : Setting) :
    (put entries key value).map Prod.fst =
      if key ∈ entries.map Prod.fst then entries.map Prod.fst
      else entries.map Prod.fst ++ [key] := by
  induction entries with
  | nil => rfl
  | cons entry rest ih => grind [put]

theorem Distinct.put {entries : Entries} (h : Distinct entries) (key : String) (value : Setting) :
    Distinct (put entries key value) := by
  rw [Distinct, keys_put]
  split
  · exact h
  · next hnew => exact List.Nodup.append h (List.nodup_singleton key) (by simpa using hnew)

theorem Distinct.mergeEntries {old : Entries} (h : Distinct old) (new : Entries) :
    Distinct (mergeEntries old new) := by
  induction new generalizing old with
  | nil => rwa [Setting.mergeEntries]
  | cons entry rest ih =>
    rw [Setting.mergeEntries]
    exact ih (h.put _ _)

/-- One setting over another, where either may be missing. -/
def overlay (later earlier : Option Setting) : Option Setting :=
  match later, earlier with
  | some new, some old => some (merge old new)
  | some new, none => some new
  | none, old => old

@[simp]
theorem overlay_none_left (earlier : Option Setting) : overlay none earlier = earlier :=
  rfl

@[simp]
theorem overlay_none_right (later : Option Setting) : overlay later none = later := by
  cases later <;> rfl

theorem merge_table (old new : Entries) :
    merge (.table old) (.table new) = .table (mergeEntries old new) := by
  rw [merge]

/-- Whatever is no table replaces what was there. -/
theorem merge_of_not_table {new : Setting} (h : ∀ entries, new ≠ .table entries) (old : Setting) :
    merge old new = new := by
  cases new with
  | table entries => exact absurd rfl (h entries)
  | _ => rw [merge]; exact h

theorem lookup_mergeEntries {new : Entries} (hnew : Distinct new) (old : Entries) (key : String) :
    (mergeEntries old new).lookup key = overlay (new.lookup key) (old.lookup key) := by
  induction new generalizing old with
  | nil => rw [mergeEntries]; rfl
  | cons entry rest ih =>
    obtain ⟨name, value⟩ := entry
    obtain ⟨hname, hrest⟩ := List.nodup_cons.mp hnew
    -- No later entry takes up the key again, so what this one puts is what stays.
    have habsent : rest.lookup name = none := by
      refine List.lookup_eq_none_iff.mpr fun entry hmem => ?_
      exact bne_iff_ne.mpr fun hsame => hname (List.mem_map.mpr ⟨entry, hmem, hsame.symm⟩)
    rw [mergeEntries, ih hrest, lookup_put, List.lookup_cons]
    by_cases hkey : key = name
    · subst hkey
      rw [habsent, if_pos rfl, beq_self_eq_true]
      cases old.lookup key <;> rfl
    · rw [if_neg hkey, beq_false_of_ne hkey]

/-! ### Along a path -/

/-- A setting that is a table with some property wherever a path still goes on. -/
def Along (P : Entries → Prop) : List String → Setting → Prop
  | [], _ => True
  | key :: path, .table entries =>
    P entries ∧ ∀ inner ∈ entries.lookup key, Along P path inner
  | _ :: _, _ => False

instance Along.decidable {P : Entries → Prop} [DecidablePred P] :
    ∀ (path : List String) (setting : Setting), Decidable (Along P path setting)
  | [], _ => .isTrue trivial
  | key :: path, .table entries =>
    have := @Along.decidable P _ path
    inferInstanceAs (Decidable (P entries ∧ ∀ inner ∈ entries.lookup key, Along P path inner))
  | _ :: _, .text _ | _ :: _, .flag _ | _ :: _, .integer _ | _ :: _, .real _ | _ :: _, .list _ =>
    .isFalse id

section Along

variable {P : Entries → Prop} {path : List String}

theorem Along.exists_entries {key : String} {setting : Setting}
    (h : Along P (key :: path) setting) :
    ∃ entries, setting = .table entries ∧ P entries ∧
      ∀ inner ∈ entries.lookup key, Along P path inner := by
  cases setting with
  | table entries => exact ⟨entries, rfl, h⟩
  | _ => exact h.elim

theorem Along.mono {Q : Entries → Prop} (hmono : ∀ entries, P entries → Q entries)
    {setting : Setting} (h : Along P path setting) : Along Q path setting := by
  induction path generalizing setting with
  | nil => trivial
  | cons key path ih =>
    obtain ⟨entries, rfl, hentries, hinner⟩ := h.exists_entries
    exact ⟨hmono entries hentries, fun inner hlookup => ih (hinner inner hlookup)⟩

variable {old new : Setting} (hnew : Along Distinct path new)
include hnew

theorem at?_merge (hold : Along P path old) :
    (merge old new).at? path = overlay (new.at? path) (old.at? path) := by
  induction path generalizing old new with
  | nil => rfl
  | cons key path ih =>
    obtain ⟨earlier, rfl, -, hearlier⟩ := hold.exists_entries
    obtain ⟨later, rfl, hdistinct, hlater⟩ := hnew.exists_entries
    rw [merge_table, at?, at?, at?, lookup_mergeEntries hdistinct]
    cases hfirst : earlier.lookup key with
    | none => simp
    | some below =>
      cases hsecond : later.lookup key with
      | none => simp
      | some above => exact ih (hlater above hsecond) (hearlier below hfirst)

theorem along_merge (hmerge : ∀ old new, P old → P (mergeEntries old new))
    (hold : Along P path old) (hboth : Along P path new) : Along P path (merge old new) := by
  induction path generalizing old new with
  | nil => trivial
  | cons key path ih =>
    obtain ⟨earlier, rfl, hholds, hearlier⟩ := hold.exists_entries
    obtain ⟨later, rfl, hdistinct, hlater⟩ := hnew.exists_entries
    rw [merge_table]
    refine ⟨hmerge earlier later hholds, fun inner hlookup => ?_⟩
    rw [lookup_mergeEntries hdistinct] at hlookup
    cases hfirst : earlier.lookup key with
    | none =>
      rw [hfirst, overlay_none_right] at hlookup
      exact hboth.2 inner hlookup
    | some below =>
      cases hsecond : later.lookup key with
      | none =>
        rw [hsecond, hfirst, overlay_none_left] at hlookup
        exact hearlier inner (hfirst.trans hlookup)
      | some above =>
        rw [hsecond, hfirst] at hlookup
        cases hlookup
        exact ih (hlater above hsecond) (hearlier below hfirst) (hboth.2 above hsecond)

end Along

/-! ### One value at the end of a path -/

/-- Neither path leads on from the end of the other. -/
def Apart (left right : List String) : Prop :=
  ¬ left <+: right ∧ ¬ right <+: left

instance (left right : List String) : Decidable (Apart left right) :=
  inferInstanceAs (Decidable (¬ left <+: right ∧ ¬ right <+: left))

theorem Apart.irrefl (path : List String) : ¬ Apart path path :=
  fun h => h.1 List.prefix_rfl

theorem Apart.of_ne {left right : List String} (hne : left ≠ right)
    (hlength : left.length = right.length) : Apart left right :=
  ⟨fun hle => hne (hle.eq_of_length hlength), fun hle => hne (hle.eq_of_length hlength.symm).symm⟩

theorem Apart.of_cons {key : String} {left right : List String}
    (h : Apart (key :: left) (key :: right)) : Apart left right :=
  ⟨fun hle => h.1 (List.cons_prefix_cons.mpr ⟨rfl, hle⟩),
    fun hle => h.2 (List.cons_prefix_cons.mpr ⟨rfl, hle⟩)⟩

theorem nest_cons (key : String) (path : List String) (value : Setting) :
    nest (key :: path) value = .table [(key, nest path value)] :=
  rfl

theorem at?_nest_self (path : List String) (value : Setting) :
    (nest path value).at? path = some value := by
  induction path with
  | nil => rfl
  | cons key path ih => simpa [nest_cons, at?] using ih

theorem at?_nest_apart {path other : List String} (h : Apart other path) (value : Setting) :
    (nest other value).at? path = none := by
  induction path generalizing other with
  | nil => exact absurd (List.nil_prefix) h.2
  | cons key path ih =>
    cases other with
    | nil => exact absurd (List.nil_prefix) h.1
    | cons name other =>
      rw [nest_cons, at?, List.lookup_cons]
      by_cases hkey : key = name
      · subst hkey
        rw [beq_self_eq_true]
        exact ih h.of_cons
      · rw [beq_false_of_ne hkey]
        rfl

theorem along_nest {path other : List String} (h : other = path ∨ Apart other path)
    (value : Setting) : Along Distinct path (nest other value) := by
  induction path generalizing other with
  | nil => trivial
  | cons key path ih =>
    cases other with
    | nil =>
      rcases h with h | h
      · cases h
      · exact absurd (List.nil_prefix) h.1
    | cons name other =>
      refine ⟨distinct_singleton name _, fun inner hlookup => ?_⟩
      rw [List.lookup_cons] at hlookup
      by_cases hkey : key = name
      · subst hkey
        rw [beq_self_eq_true] at hlookup
        cases hlookup
        refine ih (h.imp (fun hsame => (List.cons.inj hsame).2) Apart.of_cons)
      · rw [beq_false_of_ne hkey] at hlookup
        cases hlookup

end Throughput.Setting
