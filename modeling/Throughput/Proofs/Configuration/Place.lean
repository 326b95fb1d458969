import Throughput.Proofs.Setting.Environment
import Throughput.Proofs.Setting.Section

/-!
# Places of a configuration

The keys that a configuration reads, each a field of one of its sections, and the names that
variables have for them.
-/

namespace Throughput

open Setting

/-! ### Fields -/

namespace DownloadDefinition

namespace Field

def url : SectionField DownloadDefinition String :=
  ⟨"url", text?, DownloadDefinition.url, fun value d => { d with url := value }, fun _ => rfl⟩

def threads : SectionField DownloadDefinition UInt32 :=
  ⟨"threads", word32?, DownloadDefinition.threads, fun value d => { d with threads := value },
    fun _ => rfl⟩

def rampUp : SectionField DownloadDefinition UInt64 :=
  ⟨"ramp_up_ms", word64?, DownloadDefinition.rampUp, fun value d => { d with rampUp := value },
    fun _ => rfl⟩

def targetTime : SectionField DownloadDefinition UInt64 :=
  ⟨"target_time_ms", word64?, DownloadDefinition.targetTime,
    fun value d => { d with targetTime := value }, fun _ => rfl⟩

def slotLength : SectionField DownloadDefinition UInt64 :=
  ⟨"slot_length_ms", word64?, DownloadDefinition.slotLength,
    fun value d => { d with slotLength := value }, fun _ => rfl⟩

def avoidCaches : SectionField DownloadDefinition Bool :=
  ⟨"avoid_caches", flag?, DownloadDefinition.avoidCaches,
    fun value d => { d with avoidCaches := value }, fun _ => rfl⟩

end Field

def sectionFields : SectionFields DownloadDefinition :=
  [⟨_, Field.url⟩, ⟨_, Field.threads⟩, ⟨_, Field.rampUp⟩, ⟨_, Field.targetTime⟩,
    ⟨_, Field.slotLength⟩, ⟨_, Field.avoidCaches⟩]

theorem keys_eq : keys = sectionFields.keys :=
  rfl

end DownloadDefinition

namespace TrainsDefinition

namespace Field

def iterations : SectionField TrainsDefinition UInt16 :=
  ⟨"iterations", word16?, TrainsDefinition.iterations,
    fun value d => { d with iterations := value }, fun _ => rfl⟩

def trainLength : SectionField TrainsDefinition UInt16 :=
  ⟨"train_length", word16?, TrainsDefinition.trainLength,
    fun value d => { d with trainLength := value }, fun _ => rfl⟩

def packetSize : SectionField TrainsDefinition UInt64 :=
  ⟨"packet_size", word64?, TrainsDefinition.packetSize,
    fun value d => { d with packetSize := value }, fun _ => rfl⟩

def trainGap : SectionField TrainsDefinition UInt64 :=
  ⟨"train_gap_ms", word64?, TrainsDefinition.trainGap, fun value d => { d with trainGap := value },
    fun _ => rfl⟩

end Field

def sectionFields : SectionFields TrainsDefinition :=
  [⟨_, Field.iterations⟩, ⟨_, Field.trainLength⟩, ⟨_, Field.packetSize⟩, ⟨_, Field.trainGap⟩]

theorem keys_eq : keys = sectionFields.keys :=
  rfl

end TrainsDefinition

namespace BudgetSettings

namespace Field

def active : SectionField BudgetSettings Bool :=
  ⟨"active", flag?, BudgetSettings.active, fun value b => { b with active := value }, fun _ => rfl⟩

def available : SectionField BudgetSettings UInt64 :=
  ⟨"available_bytes", word64?, BudgetSettings.available,
    fun value b => { b with available := value }, fun _ => rfl⟩

def used : SectionField BudgetSettings UInt64 :=
  ⟨"used_bytes", word64?, BudgetSettings.used, fun value b => { b with used := value },
    fun _ => rfl⟩

end Field

def sectionFields : SectionFields BudgetSettings :=
  [⟨_, Field.active⟩, ⟨_, Field.available⟩, ⟨_, Field.used⟩]

theorem keys_eq : keys = sectionFields.keys :=
  rfl

end BudgetSettings

namespace Configuration

namespace Field

def level : SectionField String String :=
  ⟨"level", text?, id, fun value _ => value, fun _ => rfl⟩

def log : SectionField Configuration String :=
  ⟨"log", logLevelOf, logLevel, fun value c => { c with logLevel := value }, fun _ => rfl⟩

def download : SectionField Configuration DownloadDefinition :=
  ⟨"http_download", DownloadDefinition.ofSetting, Configuration.download,
    fun value c => { c with download := value }, fun _ => rfl⟩

def trains : SectionField Configuration TrainsDefinition :=
  ⟨"packet_trains", TrainsDefinition.ofSetting, Configuration.trains,
    fun value c => { c with trains := value }, fun _ => rfl⟩

def budget : SectionField Configuration BudgetSettings :=
  ⟨"budget", BudgetSettings.ofSetting, Configuration.budget,
    fun value c => { c with budget := value }, fun _ => rfl⟩

end Field

def logFields : SectionFields String :=
  [⟨_, Field.level⟩]

theorem logKeys_eq : logKeys = logFields.keys := by
  simp [logKeys, logFields, SectionFields.keys, SectionField.key, Field.level]

/-- The sections are the fields of the whole. -/
def sections : SectionFields Configuration :=
  [⟨_, Field.log⟩, ⟨_, Field.download⟩, ⟨_, Field.trains⟩, ⟨_, Field.budget⟩]

theorem keys_eq : keys = sections.keys :=
  rfl

/-! ### Places -/

/-- A key of a section, and the settings that it takes. -/
structure Place where
  group : String
  key : String
  takes : Setting → Bool

namespace Place

def path (place : Place) : List String :=
  [place.group, place.key]

def ofFields {σ : Type} (group : String) (fields : SectionFields σ) : List Place :=
  fields.map fun field => ⟨group, field.2.name, fun setting => (field.2.read setting).isSome⟩

def groups : List (List Place) :=
  [ofFields Field.log.name logFields,
    ofFields Field.download.name DownloadDefinition.sectionFields,
    ofFields Field.trains.name TrainsDefinition.sectionFields,
    ofFields Field.budget.name BudgetSettings.sectionFields]

def all : List Place :=
  groups.flatten

theorem subset_all {places : List Place} (h : places ∈ groups) : places ⊆ all :=
  (List.sublist_flatten_of_mem h).subset

theorem log_subset_all : ofFields Field.log.name logFields ⊆ all :=
  subset_all (.head _)

theorem download_subset_all : ofFields Field.download.name DownloadDefinition.sectionFields ⊆ all :=
  subset_all (.tail _ (.head _))

theorem trains_subset_all : ofFields Field.trains.name TrainsDefinition.sectionFields ⊆ all :=
  subset_all (.tail _ (.tail _ (.head _)))

theorem budget_subset_all : ofFields Field.budget.name BudgetSettings.sectionFields ⊆ all :=
  subset_all (.tail _ (.tail _ (.tail _ (.head _))))

theorem not_takes_table {place : Place} (hplace : place ∈ all) (entries : Entries) :
    place.takes (.table entries) = false := by
  have hall : (all.all fun place => !place.takes (.table entries)) = true := rfl
  simpa using List.all_eq_true.mp hall place hplace

end Place

/-! ### Names -/

/-- The name of the variable for a key of a section: both behind the name of the program, with two
underscores between them. -/
def spelling (group key : String) : List Char :=
  ("bwmeter_" ++ group ++ "__" ++ key).toList

/-- The case of a name does not matter, nor do blanks around it. -/
def Names (name group key : String) : Prop :=
  Environment.lower (Text.trim name.toList) = spelling group key

instance (name group key : String) : Decidable (Names name group key) :=
  inferInstanceAs (Decidable (_ = _))

theorem Place.path?_of_names {place : Place} (hplace : place ∈ all) {name : String}
    (h : Names name place.group place.key) : Environment.path? name = some place.path := by
  rw [Environment.path?, h]
  clear h
  revert place
  decide +kernel

end Configuration

end Throughput
