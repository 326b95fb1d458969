import Throughput.Configuration.Read
import Throughput.Proofs.Setting.Merge

/-!
# Sections field by field

What reading a section makes of a field depends on what stands under the name of that field alone. A
section that is absent leaves the record as it is.
-/

namespace Throughput.Setting

/-- A key of a section whose setting becomes one field of a record. -/
structure SectionField (σ α : Type) where
  name : String
  read : Setting → Option α
  get : σ → α
  put : α → σ → σ
  put_get : ∀ record, put (get record) record = record

namespace SectionField

variable {σ α : Type}

def key (field : SectionField σ α) : SectionKey σ where
  name := field.name
  read setting record := (field.read setting).bind fun value => some (field.put value record)

def value? (field : SectionField σ α) (found : String → Option Setting) : Option α :=
  (found field.name).bind field.read

end SectionField

/-- The fields of a record, each with a type of its own. -/
abbrev SectionFields (σ : Type) := List ((α : Type) × SectionField σ α)

namespace SectionFields

variable {σ : Type}

def keys (fields : SectionFields σ) : List (SectionKey σ) :=
  fields.map (·.2.key)

/-- Whatever is found for a field can be read as its value. -/
def Fit (fields : SectionFields σ) (found : String → Option Setting) : Prop :=
  ∀ field ∈ fields, ∀ setting, found field.2.name = some setting → (field.2.read setting).isSome

/-- The record with one field as found, or as it was if nothing was found for it. -/
def settle (found : String → Option Setting) (record : σ)
    (field : (α : Type) × SectionField σ α) : σ :=
  field.2.put ((field.2.value? found).getD (field.2.get record)) record

def fill (fields : SectionFields σ) (found : String → Option Setting) (record : σ) : σ :=
  fields.foldl (settle found) record

theorem fill_nothing (fields : SectionFields σ) (record : σ) :
    fields.fill (fun _ => none) record = record := by
  induction fields with
  | nil => rfl
  | cons field fields ih =>
    have hfield : settle (fun _ => none) record field = record := field.2.put_get record
    rwa [fill, List.foldl_cons, hfield]

theorem readEntry_key (field : (α : Type) × SectionField σ α) {entries : Entries}
    (h : ∀ setting, (table entries).at? [field.2.name] = some setting →
      (field.2.read setting).isSome) (record : σ) :
    readEntry entries record field.2.key =
      some (settle (fun key => (table entries).at? [key]) record field) := by
  rw [at?_single] at h
  rw [readEntry, settle, SectionField.value?, SectionField.key, at?_single]
  cases hlookup : entries.lookup field.2.name with
  | none => simp [field.2.put_get]
  | some setting =>
    obtain ⟨value, hvalue⟩ := Option.isSome_iff_exists.mp (h setting hlookup)
    simp [hvalue]

theorem readSection_table {fields : SectionFields σ} {entries : Entries}
    (h : fields.Fit fun key => (table entries).at? [key]) (record : σ) :
    readSection fields.keys record (.table entries) =
      some (fields.fill (fun key => (table entries).at? [key]) record) := by
  rw [readSection]
  induction fields generalizing record with
  | nil => rfl
  | cons field fields ih =>
    obtain ⟨hfield, hfields⟩ := List.forall_mem_cons.mp h
    rw [keys, List.map_cons, List.foldlM_cons, readEntry_key field hfield]
    exact ih hfields _

end SectionFields

/-! ### A section of a larger setting -/

/-- The section of a setting, where it has one, is a table. -/
theorem Along.exists_section {P : Entries → Prop} {group key : String} {setting : Setting}
    (h : Along P [group, key] setting) {inner : Setting}
    (hinner : setting.at? [group] = some inner) : ∃ entries, inner = .table entries := by
  obtain ⟨entries, rfl, -, hentries⟩ := h.exists_entries
  rw [at?_single] at hinner
  obtain ⟨below, rfl, -⟩ := (hentries inner hinner).exists_entries
  exact ⟨below, rfl⟩

section Group

variable {σ : Type} {fields : SectionFields σ} {group : String} {setting : Setting}
  (htable : ∀ inner, setting.at? [group] = some inner → ∃ entries, inner = .table entries)
  (hfit : fields.Fit fun key => setting.at? [group, key])
include htable hfit

theorem readSection_at? (record : σ) {inner : Setting} (hinner : setting.at? [group] = some inner) :
    readSection fields.keys record inner =
      some (fields.fill (fun key => setting.at? [group, key]) record) := by
  obtain ⟨entries, rfl⟩ := htable inner hinner
  have hfound : (fun key => setting.at? [group, key]) = fun key => (table entries).at? [key] := by
    funext key
    rw [at?_pair, hinner, Option.bind_some]
  rw [hfound] at hfit ⊢
  exact SectionFields.readSection_table hfit record

theorem getD_readSection_at? (record : σ) :
    ((setting.at? [group]).bind (readSection fields.keys record)).getD record =
      fields.fill (fun key => setting.at? [group, key]) record := by
  cases hgroup : setting.at? [group] with
  | none =>
    have hfound : (fun key => setting.at? [group, key]) = fun _ => none := by
      funext key
      rw [at?_pair, hgroup, Option.bind_none]
    rw [hfound, SectionFields.fill_nothing]
    rfl
  | some inner => rw [Option.bind_some, readSection_at? htable hfit record hgroup, Option.getD_some]

end Group

end Throughput.Setting
