import Mathlib
import Throughput.CommandLine.Options
import Throughput.Configuration.Load
import Throughput.Proofs.Configuration.Place

/-!
# Layers of a configuration

What a field is in the end: the value of its flag, else of its variable, else of the file, else the
default, each field on its own. Caches are avoided if a flag or a setting says so.
-/

namespace Throughput.Configuration

open Setting

/-! ### Layers that fit -/

/-- Settings whose sections are tables, and where a place takes whatever stands there. -/
structure WellTyped (setting : Setting) : Prop where
  along : ∀ place ∈ Place.all, Along (fun _ => True) place.path setting
  taken : ∀ place ∈ Place.all, ∀ value ∈ setting.at? place.path, place.takes value

instance (setting : Setting) : Decidable (WellTyped setting) :=
  decidable_of_iff (_ ∧ _) ⟨fun h => ⟨h.1, h.2⟩, fun h => ⟨h.along, h.taken⟩⟩

/-- A variable for a place with a value that the place takes, or one that is far from every place.
What a variable says is read before it is known what for: a host of digits alone is no text. -/
structure Suitable (entry : Environment.Variable) : Prop where
  known : (∃ place ∈ Place.all, Names entry.1 place.group place.key) ∨
    ∀ path ∈ Environment.path? entry.1, ∀ place ∈ Place.all, Apart path place.path
  taken : ∀ place ∈ Place.all, Names entry.1 place.group place.key →
    place.takes (Inline.parse entry.2)

instance (entry : Environment.Variable) : Decidable (Suitable entry) :=
  decidable_of_iff (_ ∧ _) ⟨fun h => ⟨h.1, h.2⟩, fun h => ⟨h.known, h.taken⟩⟩

namespace Suitable

variable {entry : Environment.Variable} (h : Suitable entry) {place : Place}
  (hplace : place ∈ Place.all)
include h hplace

theorem clears {other : List String} (hother : Environment.path? entry.1 = some other) :
    other = place.path ∧ (∀ entries, Inline.parse entry.2 ≠ .table entries) ∨
      Apart other place.path := by
  rcases h.known with ⟨named, hnamed, hname⟩ | hforeign
  -- The place that is named may be another one; of two different places neither leads to the other.
  · obtain rfl : other = named.path :=
      Option.some.inj (hother.symm.trans (Place.path?_of_names hnamed hname))
    by_cases hpath : named.path = place.path
    · refine .inl ⟨hpath, fun entries htable => ?_⟩
      have htaken := h.taken named hnamed hname
      rw [htable, Place.not_takes_table hnamed] at htaken
      cases htaken
    · exact .inr (.of_ne hpath rfl)
  · exact .inr (hforeign other hother place hplace)

theorem names_iff :
    Names entry.1 place.group place.key ↔ Environment.path? entry.1 = some place.path := by
  refine ⟨Place.path?_of_names hplace, fun hpath => ?_⟩
  rcases h.known with ⟨named, hnamed, hname⟩ | hforeign
  · have hsame : named.path = place.path :=
      Option.some.inj ((Place.path?_of_names hnamed hname).symm.trans hpath)
    rw [Place.path, Place.path, List.cons.injEq, List.cons.injEq] at hsame
    rwa [hsame.1, hsame.2.1] at hname
  · exact absurd (hforeign _ hpath place hplace) (Apart.irrefl _)

end Suitable

/-! ### What the layers say -/

/-- What the last variable for a key of a section says. -/
def named? (environment : List Environment.Variable) (group key : String) : Option Setting :=
  (environment.filter fun entry => Names entry.1 group key).getLast?.map fun entry =>
    Inline.parse entry.2

/-- The settings of a file, and the variables around the program. -/
structure Layers where
  file : Setting
  environment : List Environment.Variable

namespace Layers

variable {σ α : Type}

def fromVariable? (layers : Layers) (group : String) (field : SectionField σ α) : Option α :=
  field.value? (named? layers.environment group)

def fromFile? (layers : Layers) (group : String) (field : SectionField σ α) : Option α :=
  field.value? fun key => layers.file.at? [group, key]

/-- What a field is in the end: the value of its flag, else that of its variable, else that of the
file, else the default. -/
def effective (layers : Layers) (group : String) (initial : σ) (field : SectionField σ α)
    (flag : Option α) : α :=
  (flag.or ((layers.fromVariable? group field).or (layers.fromFile? group field))).getD
    (field.get initial)

def download (layers : Layers) (options : DownloadOptions) : DownloadDefinition :=
  let effective {α : Type} (field : SectionField DownloadDefinition α) : Option α → α :=
    layers.effective "http_download" .initial field
  { url := effective DownloadDefinition.Field.url options.url
    threads := effective DownloadDefinition.Field.threads options.threads
    rampUp := effective DownloadDefinition.Field.rampUp options.rampUp
    targetTime := effective DownloadDefinition.Field.targetTime options.targetTime
    slotLength := effective DownloadDefinition.Field.slotLength options.slotLength
    avoidCaches := options.avoidCaches || effective DownloadDefinition.Field.avoidCaches none }

def trains (layers : Layers) (shape : ShapeOptions) : TrainsDefinition :=
  let effective {α : Type} (field : SectionField TrainsDefinition α) : Option α → α :=
    layers.effective "packet_trains" .initial field
  { iterations := effective TrainsDefinition.Field.iterations shape.iterations
    trainLength := effective TrainsDefinition.Field.trainLength shape.trainLength
    packetSize := effective TrainsDefinition.Field.packetSize shape.packetSize
    trainGap := effective TrainsDefinition.Field.trainGap shape.trainGap }

end Layers

/-! ### Both layers together -/

/-- The settings of a file under those of the environment. -/
def Layers.merged (layers : Layers) : Setting :=
  layers.file.merge (Environment.settings layers.environment)

section Merged

variable {layers : Layers} (hfile : WellTyped layers.file)
  (henvironment : ∀ entry ∈ layers.environment, Suitable entry) {place : Place}
  (hplace : place ∈ Place.all)

include henvironment hplace

theorem last?_eq_named? :
    Environment.last? place.path layers.environment =
      named? layers.environment place.group place.key := by
  rw [Environment.last?, named?]
  congr 2
  refine List.filter_congr fun entry hentry => ?_
  exact decide_eq_decide.mpr ((henvironment entry hentry).names_iff hplace).symm

theorem takes_named {value : Setting}
    (hvalue : named? layers.environment place.group place.key = some value) :
    place.takes value := by
  obtain ⟨entry, hentry, rfl⟩ := Option.map_eq_some_iff.mp hvalue
  obtain ⟨hmem, hname⟩ := List.mem_filter.mp (List.mem_of_getLast? hentry)
  exact (henvironment entry hmem).taken place hplace (of_decide_eq_true hname)

include hfile

theorem merged_along_at? :
    Along (fun _ => True) place.path layers.merged ∧
      layers.merged.at? place.path =
        (named? layers.environment place.group place.key).or (layers.file.at? place.path) := by
  have hpath : place.path ≠ [] := List.cons_ne_nil place.group [place.key]
  obtain ⟨halong, hat⟩ := Environment.settings_along hpath fun entry hentry other =>
    (henvironment entry hentry).clears hplace
  refine ⟨along_merge halong (fun _ _ _ => trivial) (hfile.along place hplace)
    (halong.mono fun _ _ => trivial), ?_⟩
  rw [Layers.merged, at?_merge halong (hfile.along place hplace), hat,
    last?_eq_named? henvironment hplace]
  cases hnamed : named? layers.environment place.group place.key with
  | none => rfl
  | some value =>
    have hplain : ∀ entries, value ≠ .table entries := by
      rintro entries rfl
      have htaken := takes_named henvironment hplace hnamed
      rw [Place.not_takes_table hplace] at htaken
      cases htaken
    cases layers.file.at? place.path with
    | none => rfl
    | some old => exact congrArg some (merge_of_not_table hplain old)

omit hplace in
theorem wellTyped_merged : WellTyped layers.merged where
  along place hplace := (merged_along_at? hfile henvironment hplace).1
  taken place hplace value hvalue := by
    rw [(merged_along_at? hfile henvironment hplace).2, Option.mem_def, Option.or_eq_some_iff]
      at hvalue
    rcases hvalue with hvalue | ⟨-, hvalue⟩
    · exact takes_named henvironment hplace hvalue
    · exact hfile.taken place hplace value hvalue

end Merged

/-! ### Reading well-typed settings -/

/-- A section of a configuration, filled field by field. -/
def filled {α : Type} (setting : Setting) (whole : SectionField Configuration α)
    (fields : SectionFields α) : α :=
  fields.fill (fun key => setting.at? [whole.name, key]) (whole.get initial)

namespace WellTyped

variable {setting : Setting} (h : WellTyped setting)
include h

/-- A section whose fields are places is read, and field by field. -/
theorem read_section {α : Type} (whole : SectionField Configuration α) {fields : SectionFields α}
    (hread : whole.read = readSection fields.keys (whole.get initial)) (hfields : fields ≠ [])
    (hplaces : Place.ofFields whole.name fields ⊆ Place.all) :
    (∀ inner, setting.at? [whole.name] = some inner → (whole.read inner).isSome) ∧
      (whole.value? fun group => setting.at? [group]).getD (whole.get initial) =
        filled setting whole fields := by
  have htable inner (hinner : setting.at? [whole.name] = some inner) :
      ∃ entries, inner = .table entries := by
    obtain ⟨field, rest, rfl⟩ := List.exists_cons_of_ne_nil hfields
    exact (h.along _ (hplaces (List.mem_map_of_mem List.mem_cons_self))).exists_section hinner
  have hfit : fields.Fit fun key => setting.at? [whole.name, key] := fun field hfield value =>
    h.taken _ (hplaces (List.mem_map_of_mem hfield)) value
  rw [SectionField.value?, hread]
  refine ⟨fun inner hinner => ?_, getD_readSection_at? htable hfit _⟩
  rw [readSection_at? htable hfit _ hinner]
  rfl

theorem ofSetting_eq :
    ofSetting setting = some
      { logLevel := filled setting Field.log logFields
        download := filled setting Field.download DownloadDefinition.sectionFields
        trains := filled setting Field.trains TrainsDefinition.sectionFields
        budget := filled setting Field.budget BudgetSettings.sectionFields } := by
  have hlog := h.read_section Field.log (congrArg (readSection · _) logKeys_eq)
    (List.cons_ne_nil _ _) Place.log_subset_all
  have hdownload := h.read_section Field.download
    (congrArg (readSection · _) DownloadDefinition.keys_eq)
    (List.cons_ne_nil _ _) Place.download_subset_all
  have htrains := h.read_section Field.trains (congrArg (readSection · _) TrainsDefinition.keys_eq)
    (List.cons_ne_nil _ _) Place.trains_subset_all
  have hbudget := h.read_section Field.budget (congrArg (readSection · _) BudgetSettings.keys_eq)
    (List.cons_ne_nil _ _) Place.budget_subset_all
  obtain ⟨entries, rfl, -⟩ := (h.along _ List.mem_cons_self).exists_entries
  have hfit : sections.Fit fun group => (table entries).at? [group] := by
    simp only [SectionFields.Fit, sections, List.forall_mem_cons]
    exact ⟨hlog.1, hdownload.1, htrains.1, hbudget.1, fun _ hmem => absurd hmem List.not_mem_nil⟩
  rw [ofSetting, keys_eq, SectionFields.readSection_table hfit, ← hlog.2, ← hdownload.2,
    ← htrains.2, ← hbudget.2]
  rfl

end WellTyped

/-! ### Each field on its own -/

section Effective

variable {layers : Layers} (hfile : WellTyped layers.file)
  (henvironment : ∀ entry ∈ layers.environment, Suitable entry)
include hfile henvironment

/-- What the merged settings say of a field, under a flag for it. -/
theorem effective_eq {σ α : Type} {group : String} {fields : SectionFields σ}
    (hplaces : Place.ofFields group fields ⊆ Place.all) {field : SectionField σ α}
    (hfield : ⟨α, field⟩ ∈ fields) (initial : σ) (flag : Option α) :
    layers.effective group initial field flag =
      flag.getD ((field.value? fun key => layers.merged.at? [group, key]).getD
        (field.get initial)) := by
  have hplace : ⟨group, field.name, fun setting => (field.read setting).isSome⟩ ∈ Place.all :=
    hplaces (List.mem_map_of_mem hfield)
  have hmerged := (merged_along_at? hfile henvironment hplace).2
  have hvalue : (field.value? fun key => layers.merged.at? [group, key]) =
      (layers.fromVariable? group field).or (layers.fromFile? group field) := by
    rw [SectionField.value?, Layers.fromVariable?, Layers.fromFile?, SectionField.value?,
      SectionField.value?]
    refine (congrArg (Option.bind · field.read) hmerged).trans ?_
    cases hnamed : named? layers.environment group field.name with
    | none => rfl
    | some setting =>
      -- A variable that is there is read, so the file is not asked.
      have htaken := takes_named henvironment hplace hnamed
      obtain ⟨value, hvalue⟩ := Option.isSome_iff_exists.mp htaken
      simp [hvalue, Place.path]
  rw [Layers.effective, hvalue, Option.getD_or]

theorem applyTo_download (options : DownloadOptions) :
    options.applyTo (filled layers.merged Field.download DownloadDefinition.sectionFields) =
      layers.download options := by
  have heffective {α : Type} (field : SectionField DownloadDefinition α)
      (hfield : ⟨α, field⟩ ∈ DownloadDefinition.sectionFields) :=
    effective_eq hfile henvironment Place.download_subset_all hfield .initial
  rw [Layers.download, DownloadOptions.applyTo]
  congr 1
  case e_avoidCaches =>
    have hcaches := heffective DownloadDefinition.Field.avoidCaches
      (by simp [DownloadDefinition.sectionFields]) none
    exact (Bool.or_comm _ _).trans (congrArg (options.avoidCaches || ·) hcaches.symm)
  all_goals exact (heffective _ (by simp [DownloadDefinition.sectionFields]) _).symm

theorem applyTo_trains (shape : ShapeOptions) :
    shape.applyTo (filled layers.merged Field.trains TrainsDefinition.sectionFields) =
      layers.trains shape := by
  have heffective {α : Type} (field : SectionField TrainsDefinition α)
      (hfield : ⟨α, field⟩ ∈ TrainsDefinition.sectionFields) :=
    effective_eq hfile henvironment Place.trains_subset_all hfield .initial
  rw [Layers.trains, ShapeOptions.applyTo]
  congr 1
  all_goals exact (heffective _ (by simp [TrainsDefinition.sectionFields]) _).symm

end Effective

theorem load_eq_ok {file : SettingsFile} {environment : List Environment.Variable}
    {setting : Setting} {configuration : Configuration} (hfile : fileSetting file = .ok setting)
    (h : ofSetting (setting.merge (Environment.settings environment)) = some configuration) :
    load file environment = .ok configuration := by
  rw [load, hfile]
  simp only [bind, Except.bind, h]
  rfl

/-- A well-typed file and well-typed variables are loaded, and under any flags each field of both
definitions is what its own flag, variable and key of the file make of it. -/
theorem load_layered {file : SettingsFile} {environment : List Environment.Variable}
    {setting : Setting} (hfile : fileSetting file = .ok setting) (hsetting : WellTyped setting)
    (henvironment : ∀ entry ∈ environment, Suitable entry) :
    ∃ configuration, load file environment = .ok configuration ∧
      (∀ options : DownloadOptions, options.applyTo configuration.download =
        Layers.download ⟨setting, environment⟩ options) ∧
      ∀ shape : ShapeOptions, shape.applyTo configuration.trains =
        Layers.trains ⟨setting, environment⟩ shape := by
  have hmerged : WellTyped (setting.merge (Environment.settings environment)) :=
    @wellTyped_merged ⟨setting, environment⟩ hsetting henvironment
  exact ⟨_, load_eq_ok hfile hmerged.ofSetting_eq,
    @applyTo_download ⟨setting, environment⟩ hsetting henvironment,
    @applyTo_trains ⟨setting, environment⟩ hsetting henvironment⟩

/-- One key of each section comes from a variable, one from a flag, and the flag that is not given
leaves the caches avoided. -/
theorem load_layered_both_sections :
    ∃ configuration,
      load
          ⟨some "bwmeter.toml", some
            ("[http_download]\nurl = \"example.net\"\nthreads = 8\navoid_caches = true\n\n" ++
              "[packet_trains]\niterations = 20\npacket_size = 500\n")⟩
          [("BWMETER_HTTP_DOWNLOAD__THREADS", "12"), ("bwmeter_Packet_Trains__Train_Length", "64"),
            ("PATH", "/usr/bin")] = .ok configuration ∧
        { DownloadOptions.empty with rampUp := some 500 }.applyTo configuration.download =
          { url := "example.net"
            threads := 12
            rampUp := 500
            targetTime := 10000
            slotLength := 500
            avoidCaches := true } ∧
        { ShapeOptions.empty with packetSize := some 1400 }.applyTo configuration.trains =
          { iterations := 20
            trainLength := 64
            packetSize := 1400
            trainGap := 100 } := by
  have hlayered {file environment} (hfile : fileSetting file = .ok _) :=
    @load_layered file environment
      (.table
        [("http_download", .table
          [("url", .text "example.net"), ("threads", .integer 8), ("avoid_caches", .flag true)]),
          ("packet_trains", .table [("iterations", .integer 20), ("packet_size", .integer 500)])])
      hfile (by decide +kernel)
  refine (hlayered (by cbv) (by decide +kernel)).imp fun configuration h => ⟨h.1, ?_, ?_⟩
  · exact (h.2.1 _).trans (by decide +kernel)
  · exact (h.2.2 _).trans (by decide +kernel)

end Throughput.Configuration
