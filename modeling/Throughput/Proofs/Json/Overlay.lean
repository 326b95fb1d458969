import Throughput.Proofs.Json.Reading
import Throughput.Proofs.Json.RoundTrip

/-!
# Definitions over their defaults

An object is read member by member. Each field that it gives replaces the default, in whatever order
the fields come. Members with other keys are passed over with all that stands in their values, but
their keys are read as texts before they are found to be no field.
-/

namespace Throughput

namespace Json

/-! ## What an object gives -/

structure Member.Gives (member : Member) (name : String) (value : Value) : Prop where
  key : Spells member.key name.toList
  value : Stands member.value value

/-- The key is none of the names, however it is spelled. -/
def Member.Unknown (names : List String) (member : Member) : Prop :=
  ∀ name ∈ names, ¬ Spells member.key name.toList

/-- The key stands for a text. -/
def Member.Named (member : Member) : Prop :=
  ∃ name : String, Spells member.key name.toList

structure Member.Other (names : List String) (member : Member) : Prop where
  named : member.Named
  unknown : member.Unknown names

/-- The members give the values in their order. There may be others between them. -/
inductive Presents (other : Member → Prop) : List Member → List (String × Value) → Prop
  | nil : Presents other [] []
  | given {member : Member} {members : List Member} {name : String} {value : Value}
      {present : List (String × Value)} : member.Gives name value →
      Presents other members present →
      Presents other (member :: members) ((name, value) :: present)
  | other {member : Member} {members : List Member} {present : List (String × Value)} :
      other member → Presents other members present → Presents other (member :: members) present

/-- The same for the entries of a tree. -/
inductive Holds (names : List String) : List Entry → List (String × Value) → Prop
  | nil : Holds names [] []
  | given {name : String} {value : Value} {entries : List Entry}
      {present : List (String × Value)} : Holds names entries present →
      Holds names ((⟨.ok name.toList, .ok ()⟩, value.node) :: entries) ((name, value) :: present)
  | other {name : String} {node : Node} {entries : List Entry} {present : List (String × Value)} :
      name ∉ names → node.skip = .ok () → Holds names entries present →
      Holds names ((⟨.ok name.toList, .ok ()⟩, node) :: entries) present

section Members

variable {names : List String} {members : List Member} {present : List (String × Value)}

theorem Member.readsAs {member : Member} {node : Node} {name : String} (hkeyed : member.Keyed)
    (hname : Spells member.key name.toList) (hvalue : Json.ReadsAs member.value node) :
    member.ReadsAs (⟨.ok name.toList, .ok ()⟩, node) := by
  obtain ⟨pieces, hspelled, hmeans⟩ := hname
  exact ⟨hkeyed.before, ⟨pieces, hspelled, by rw [hmeans.join]⟩, hkeyed.between, hvalue⟩

theorem Presents.holds (h : Presents (Member.Other names) members present)
    (hkeyed : ∀ member ∈ members, member.Keyed)
    (hvalues : ∀ member ∈ members, IsElement member.value)
    (hreadable : ∀ entry ∈ present, entry.2.Readable) :
    ∃ entries, List.Forall₂ Member.ReadsAs members entries ∧ Holds names entries present := by
  induction h with
  | nil => exact ⟨[], .nil, .nil⟩
  | given hgives _ ih =>
    rw [List.forall_mem_cons] at hkeyed hvalues hreadable
    obtain ⟨entries, hreads, hholds⟩ := ih hkeyed.2 hvalues.2 hreadable.2
    have hvalue := hgives.value.readsAs hreadable.1
    exact ⟨_, .cons (Member.readsAs hkeyed.1 hgives.key hvalue) hreads, .given hholds⟩
  | other hother _ ih =>
    rw [List.forall_mem_cons] at hkeyed hvalues
    obtain ⟨entries, hreads, hholds⟩ := ih hkeyed.2 hvalues.2 hreadable
    obtain ⟨⟨name, hname⟩, hunknown⟩ := hother
    obtain ⟨node, hvalue, hskip⟩ := hvalues.1.readsAs
    have hnot : name ∉ names := fun hmem => hunknown name hmem hname
    exact ⟨_, .cons (Member.readsAs hkeyed.1 hname hvalue) hreads, .other hnot hskip hholds⟩

/-- Every member is read, also one whose key is refused where it is needed. -/
theorem Member.exists_readsAs {member : Member} (hkeyed : member.Keyed)
    (hvalue : IsElement member.value) :
    ∃ entry, member.ReadsAs entry ∧ (¬ member.Named → entry.1.value = .error .malformed) := by
  obtain ⟨pieces, hspelled⟩ := hkeyed.key
  obtain ⟨node, hread, -⟩ := hvalue.readsAs
  refine ⟨(_, node), ⟨hkeyed.before, ⟨pieces, hspelled, rfl⟩, hkeyed.between, hread⟩, ?_⟩
  intro hunnamed
  rcases means_or_malformed pieces with ⟨text, hmeans⟩ | herror
  · exact absurd ⟨.ofList text, pieces, hspelled, by rwa [String.toList_ofList]⟩ hunnamed
  · exact herror

theorem exists_entries (hkeyed : ∀ member ∈ members, member.Keyed)
    (hvalues : ∀ member ∈ members, IsElement member.value) :
    ∃ entries, List.Forall₂ Member.ReadsAs members entries := by
  induction members with
  | nil => exact ⟨[], .nil⟩
  | cons member members ih =>
    rw [List.forall_mem_cons] at hkeyed hvalues
    obtain ⟨entry, hread, -⟩ := Member.exists_readsAs hkeyed.1 hvalues.1
    obtain ⟨entries, hreads⟩ := ih hkeyed.2 hvalues.2
    exact ⟨entry :: entries, .cons hread hreads⟩

/-- The first member whose key stands for no text, behind members that do give values or are
skipped. -/
theorem Presents.split (h : Presents (Member.Unknown names) members present)
    (hunnamed : ¬ ∀ member ∈ members, member.Named) :
    ∃ before stray after first rest, members = before ++ stray :: after ∧ present = first ++ rest ∧
      Presents (Member.Other names) before first ∧ ¬ stray.Named := by
  induction h with
  | nil => exact absurd (List.forall_mem_nil _) hunnamed
  | given hgives _ ih =>
    have hrest := fun h => hunnamed (List.forall_mem_cons.mpr ⟨⟨_, hgives.key⟩, h⟩)
    obtain ⟨before, stray, after, first, rest, rfl, rfl, hpresents, hstray⟩ := ih hrest
    exact ⟨_ :: before, stray, after, _ :: first, rest, rfl, rfl, .given hgives hpresents, hstray⟩
  | @other member members present hother _ ih =>
    by_cases hnamed : member.Named
    · have hrest := fun h => hunnamed (List.forall_mem_cons.mpr ⟨hnamed, h⟩)
      obtain ⟨before, stray, after, first, rest, rfl, rfl, hpresents, hstray⟩ := ih hrest
      exact ⟨member :: before, stray, after, first, rest, rfl, rfl,
        .other ⟨hnamed, hother⟩ hpresents, hstray⟩
    · exact ⟨[], member, members, [], present, rfl, rfl, .nil, hnamed⟩

theorem IsObject.keyed {text : List Char} (h : IsObject text members) :
    ∀ member ∈ members, member.Keyed := by
  obtain ⟨-, -, -, hkeyed, -⟩ := h
  exact hkeyed

theorem IsObject.isElement {text : List Char} (h : IsObject text members) :
    ∀ member ∈ members, IsElement member.value := by
  obtain ⟨-, -, -, -, hvalues⟩ := h
  exact hvalues

theorem IsObject.readsAs {text : List Char} {entries : List Entry} (h : IsObject text members)
    (hreads : List.Forall₂ Member.ReadsAs members entries) :
    ReadsAs text (.object entries .closed) := by
  obtain ⟨hleft, hright, hbody, -, -⟩ := h
  exact (ReadsAs.object hbody hreads).padded hleft hright

end Members

/-! ## Filling a record -/

def Value.entries : Value → List (String × Value)
  | .object entries => entries
  | _ => []

theorem Value.Readable.entries {value : Value} (h : value.Readable) :
    ∀ entry ∈ value.entries, entry.2.Readable := by
  intro entry hentry
  cases h with
  | object hentries => exact hentries entry hentry
  | _ => exact absurd hentry List.not_mem_nil

namespace Shape

variable {σ : Type}

def names (shape : Shape σ) : List String :=
  shape.fields.map (·.name)

theorem field?_eq_none {shape : Shape σ} {name : String} (h : name ∉ shape.names) :
    shape.field? name = none := by
  refine List.find?_eq_none.mpr fun field hfield heq => h ?_
  exact List.mem_map.mpr ⟨field, hfield, of_decide_eq_true heq⟩

/-- What is written for a record is read field by field. The fields that have been read are those of
the given record, and the others are the initial ones. -/
structure FilledBy (shape : Shape σ) (write : σ → Value) (overlay : σ → List String → σ) :
    Prop where
  optional : shape.optional = true
  readable (given : σ) : (write given).Readable
  initial (given : σ) : overlay given [] = shape.initial
  congr (given : σ) {first second : List String} : (∀ name, name ∈ first ↔ name ∈ second) →
    overlay given first = overlay given second
  field (given : σ) {entry : String × Value} : entry ∈ (write given).entries →
    ∃ field, shape.field? entry.1 = some field ∧
      (∀ record, ∃ next, field.read entry.2.node record = .ok next) ∧
      ∀ names, field.read entry.2.node (overlay given names) =
        .ok (overlay given (entry.1 :: names))

namespace FilledBy

variable {shape : Shape σ} {write : σ → Value} {overlay : σ → List String → σ}
  {entries : List Entry} {present : List (String × Value)}

theorem readEntries_fresh (hfilled : shape.FilledBy write overlay)
    (h : Holds shape.names entries present) {given : σ}
    (hgiven : ∀ entry ∈ present, entry ∈ (write given).entries) (seen : List String)
    (hfresh : (seen.reverse ++ present.map Prod.fst).Nodup) :
    shape.readEntries seen (overlay given seen) entries =
      .ok ((present.map Prod.fst).reverse ++ seen,
        overlay given ((present.map Prod.fst).reverse ++ seen)) := by
  induction h generalizing seen with
  | nil => rfl
  | @given name value entries present _ ih =>
    rw [List.forall_mem_cons] at hgiven
    obtain ⟨field, hfield, -, hread⟩ := hfilled.field given hgiven.1
    have hseen : seen.contains name = false := by
      have hapart := (List.nodup_append.mp hfresh).2.2
      rw [List.contains_eq_mem, decide_eq_false_iff_not]
      exact fun hmem => hapart _ (List.mem_reverse.mpr hmem) _ List.mem_cons_self rfl
    have hrest := ih hgiven.2 (name :: seen) (by simpa using hfresh)
    rw [readEntries]
    simp only [bind, Except.bind, String.ofList_toList, hfield, hseen, hread]
    simpa using hrest
  | other hname hskip _ ih =>
    have hrest := ih hgiven seen hfresh
    rw [readEntries]
    simpa [bind, Except.bind, String.ofList_toList, field?_eq_none hname, hskip] using hrest

theorem readEntries_repeated (hfilled : shape.FilledBy write overlay)
    (h : Holds shape.names entries present)
    (hvalid : ∀ entry ∈ present, ∃ given, entry ∈ (write given).entries) {seen : List String}
    (hseen : seen.Nodup) (record : σ) (hrepeated : ¬ (seen.reverse ++ present.map Prod.fst).Nodup) :
    shape.readEntries seen record entries = .error .mistyped := by
  induction h generalizing seen record with
  | nil => exact absurd (by simpa using (List.reverse_perm _).nodup_iff.mpr hseen) hrepeated
  | @given name value entries present _ ih =>
    rw [List.forall_mem_cons] at hvalid
    obtain ⟨⟨given, hgiven⟩, hrest⟩ := hvalid
    obtain ⟨field, hfield, hread, -⟩ := hfilled.field given hgiven
    obtain ⟨next, hnext⟩ := hread record
    rw [readEntries]
    simp only [bind, Except.bind, String.ofList_toList, hfield, hnext]
    by_cases hname : name ∈ seen
    · rw [if_pos (List.contains_iff_mem.mpr hname)]
    · rw [if_neg (mt List.contains_iff_mem.mp hname)]
      exact ih hrest (List.nodup_cons.mpr ⟨hname, hseen⟩) next (by simpa using hrepeated)
  | other hname hskip _ ih =>
    have hrest := ih hvalid hseen record hrepeated
    rw [readEntries]
    simpa [bind, Except.bind, String.ofList_toList, field?_eq_none hname, hskip] using hrest

end FilledBy

theorem readEntries_append (shape : Shape σ) (seen : List String) (record : σ)
    (before after : List Entry) :
    shape.readEntries seen record (before ++ after) =
      (shape.readEntries seen record before).bind fun filled =>
        shape.readEntries filled.1 filled.2 after := by
  induction before generalizing seen record with
  | nil => rfl
  | cons entry before ih =>
    obtain ⟨key, node⟩ := entry
    rw [List.cons_append, readEntries, readEntries]
    simp only [bind, Except.bind]
    cases key.value with
    | error fault => rfl
    | ok name =>
      simp only
      split
      · cases node.skip with
        | error fault => rfl
        | ok => exact ih seen record
      · split
        · rfl
        · next field _ _ =>
          cases field.read node record with
          | error fault => rfl
          | ok next => exact ih _ next

/-- What is read of an object is what is read of the entries of its tree. -/
theorem decode_object {shape : Shape σ} (hoptional : shape.optional = true) {text : String}
    {members : List Member} (hobject : IsObject text.toList members) {entries : List Entry}
    (hreads : List.Forall₂ Member.ReadsAs members entries) :
    decode shape.read text = (shape.readEntries [] shape.initial entries).map Prod.snd := by
  rw [← String.ofList_toList (s := text), (hobject.readsAs hreads).decode, Shape.read]
  cases shape.readEntries [] shape.initial entries with
  | error fault => rfl
  | ok filled => simp [bind, Except.bind, Ending.check, Except.map, hoptional]

end Shape

/-! ## Reading over the defaults -/

/-- Objects with values that are written for a record, and with other members between them. -/
structure Overlays {σ : Type} (ofJson : String → Outcome σ) (write : σ → Value)
    (overlay : σ → List String → σ) (other : Member → Prop) : Prop where
  given (record : σ) {text : String} {members : List Member} {present : List (String × Value)} :
    IsObject text.toList members → Presents other members present →
    (present.map Prod.fst).Nodup → (∀ entry ∈ present, entry ∈ (write record).entries) →
    ofJson text = .ok (overlay record (present.map Prod.fst))
  order (record : σ) {first second : String} {members others : List Member}
    {present reordered : List (String × Value)} :
    IsObject first.toList members → Presents other members present →
    IsObject second.toList others → Presents other others reordered →
    present.Perm reordered → (present.map Prod.fst).Nodup →
    (∀ entry ∈ present, entry ∈ (write record).entries) → ofJson first = ofJson second
  twice {text : String} {members : List Member} {present : List (String × Value)} :
    IsObject text.toList members → Presents other members present →
    ¬ (present.map Prod.fst).Nodup →
    (∀ entry ∈ present, ∃ record, entry ∈ (write record).entries) →
    ofJson text = .error .mistyped

/-- Keys that stand for no text are refused, though nobody needs to know what they stand for. -/
structure OverlaysTexts {σ : Type} (ofJson : String → Outcome σ) (write : σ → Value)
    (overlay : σ → List String → σ) (names : List String) : Prop
    extends Overlays ofJson write overlay (Member.Other names) where
  unnamed {text : String} {members : List Member} {present : List (String × Value)} {record : σ} :
    IsObject text.toList members → Presents (Member.Unknown names) members present →
    (present.map Prod.fst).Nodup → (∀ entry ∈ present, entry ∈ (write record).entries) →
    ¬ (∀ member ∈ members, member.Named) → ofJson text = .error .malformed

namespace Shape.FilledBy

variable {σ : Type} {shape : Shape σ} {write : σ → Value} {overlay : σ → List String → σ}
  {text : String} {members : List Member} {present : List (String × Value)}

theorem readable_of_valid (hfilled : shape.FilledBy write overlay)
    (hvalid : ∀ entry ∈ present, ∃ record, entry ∈ (write record).entries) :
    ∀ entry ∈ present, entry.2.Readable := by
  intro entry hentry
  obtain ⟨record, hrecord⟩ := hvalid entry hentry
  exact (hfilled.readable record).entries entry hrecord

theorem decode_eq (hfilled : shape.FilledBy write overlay) (hobject : IsObject text.toList members)
    (hpresents : Presents (Member.Other shape.names) members present)
    (hvalid : ∀ entry ∈ present, ∃ record, entry ∈ (write record).entries) :
    ∃ entries, Holds shape.names entries present ∧
      decode shape.read text = (shape.readEntries [] shape.initial entries).map Prod.snd := by
  obtain ⟨entries, hreads, hholds⟩ :=
    hpresents.holds hobject.keyed hobject.isElement (hfilled.readable_of_valid hvalid)
  exact ⟨entries, hholds, decode_object hfilled.optional hobject hreads⟩

theorem decode_given (hfilled : shape.FilledBy write overlay) (record : σ)
    (hobject : IsObject text.toList members)
    (hpresents : Presents (Member.Other shape.names) members present)
    (hnodup : (present.map Prod.fst).Nodup)
    (hvalues : ∀ entry ∈ present, entry ∈ (write record).entries) :
    decode shape.read text = .ok (overlay record (present.map Prod.fst)) := by
  obtain ⟨entries, hholds, hdecode⟩ :=
    hfilled.decode_eq hobject hpresents fun entry hentry => ⟨record, hvalues entry hentry⟩
  rw [hdecode, ← hfilled.initial record,
    hfilled.readEntries_fresh hholds hvalues [] (by simpa using hnodup)]
  exact congrArg Except.ok (hfilled.congr record (by simp))

theorem overlays (hfilled : shape.FilledBy write overlay) :
    Overlays (decode shape.read) write overlay (Member.Other shape.names) := by
  refine ⟨fun record => hfilled.decode_given record, ?_, ?_⟩
  · intro record first second members others present reordered hfirst hpresent hsecond hreordered
      hperm hnodup hvalues
    have hnames := hperm.map Prod.fst
    rw [hfilled.decode_given record hfirst hpresent hnodup hvalues,
      hfilled.decode_given record hsecond hreordered (hnames.nodup_iff.mp hnodup)
        fun entry hentry => hvalues entry (hperm.mem_iff.mpr hentry)]
    exact congrArg Except.ok (hfilled.congr record fun name => hnames.mem_iff)
  · intro text members present hobject hpresents hrepeated hvalid
    obtain ⟨entries, hholds, hdecode⟩ := hfilled.decode_eq hobject hpresents hvalid
    rw [hdecode, hfilled.readEntries_repeated hholds hvalid List.nodup_nil _ hrepeated]
    rfl

theorem overlaysTexts (hfilled : shape.FilledBy write overlay) :
    OverlaysTexts (decode shape.read) write overlay shape.names := by
  refine ⟨hfilled.overlays, ?_⟩
  intro text members present record hobject hpresents hnodup hvalues hunnamed
  obtain ⟨before, stray, after, first, rest, rfl, rfl, hfirst, hstray⟩ := hpresents.split hunnamed
  obtain ⟨hkeyed, hkeyedStray, hkeyedAfter⟩ := by
    simpa only [List.forall_mem_append, List.forall_mem_cons] using hobject.keyed
  obtain ⟨hvalue, hvalueStray, hvalueAfter⟩ := by
    simpa only [List.forall_mem_append, List.forall_mem_cons] using hobject.isElement
  have hgiven : ∀ entry ∈ first, entry ∈ (write record).entries :=
    fun entry hentry => hvalues entry (List.mem_append_left _ hentry)
  have hreadable := hfilled.readable_of_valid fun entry hentry => ⟨record, hgiven entry hentry⟩
  have hfresh : (first.map Prod.fst).Nodup := by
    rw [List.map_append] at hnodup
    exact (List.nodup_append.mp hnodup).1
  obtain ⟨entries, hreads, hholds⟩ := hfirst.holds hkeyed hvalue hreadable
  obtain ⟨entry, hread, hrefused⟩ := Member.exists_readsAs hkeyedStray hvalueStray
  obtain ⟨others, hreadOthers⟩ := exists_entries hkeyedAfter hvalueAfter
  have hall := List.rel_append hreads (.cons hread hreadOthers)
  rw [decode_object hfilled.optional hobject hall, ← hfilled.initial record, readEntries_append,
    hfilled.readEntries_fresh hholds hgiven [] (by simpa using hfresh), Except.bind, readEntries,
    hrefused hstray]
  rfl

end Shape.FilledBy

end Json

open Json

namespace DownloadDefinition

/-- The named fields of a definition over the defaults. -/
def overlay (given : DownloadDefinition) (names : List String) : DownloadDefinition :=
  { url := if "url" ∈ names then given.url else initial.url
    threads := if "threads" ∈ names then given.threads else initial.threads
    rampUp := if "ramp_up_ms" ∈ names then given.rampUp else initial.rampUp
    targetTime := if "target_time_ms" ∈ names then given.targetTime else initial.targetTime
    slotLength := if "slot_length_ms" ∈ names then given.slotLength else initial.slotLength
    avoidCaches := if "avoid_caches" ∈ names then given.avoidCaches else initial.avoidCaches }

theorem filledBy : shape.FilledBy json overlay := by
  refine ⟨rfl, readable_json, fun _ => rfl, fun given first second h => ?_, ?_⟩
  · simp only [overlay, h]
  · intro given entry hentry
    simp only [json, Value.entries, List.mem_cons, List.not_mem_nil, or_false] at hentry
    rcases hentry with rfl | rfl | rfl | rfl | rfl | rfl
    all_goals
      refine ⟨_, rfl, fun record => ?_, fun names => ?_⟩
      · simp [bind, Except.bind, pure, Except.pure]
      · simp [overlay, bind, Except.bind, pure, Except.pure]

end DownloadDefinition

namespace TrainsDefinition

/-- The named fields of a definition over the defaults. -/
def overlay (given : TrainsDefinition) (names : List String) : TrainsDefinition :=
  { iterations := if "iterations" ∈ names then given.iterations else initial.iterations
    trainLength := if "train_length" ∈ names then given.trainLength else initial.trainLength
    packetSize := if "packet_size" ∈ names then given.packetSize else initial.packetSize
    trainGap := if "train_gap_ms" ∈ names then given.trainGap else initial.trainGap }

theorem filledBy : shape.FilledBy json overlay := by
  refine ⟨rfl, readable_json, fun _ => rfl, fun given first second h => ?_, ?_⟩
  · simp only [overlay, h]
  · intro given entry hentry
    simp only [json, Value.entries, List.mem_cons, List.not_mem_nil, or_false] at hentry
    rcases hentry with rfl | rfl | rfl | rfl
    all_goals
      refine ⟨_, rfl, fun record => ?_, fun names => ?_⟩
      · simp [bind, Except.bind, pure, Except.pure]
      · simp [overlay, bind, Except.bind, pure, Except.pure]

end TrainsDefinition

/-- Definitions are read over the defaults: the fields that an object gives replace theirs, in
whatever order they come and with whatever stands between them. No field may come twice, and no key
may stand for nothing. -/
theorem definitions_overlay :
    OverlaysTexts DownloadDefinition.ofJson DownloadDefinition.json DownloadDefinition.overlay
        DownloadDefinition.shape.names ∧
      OverlaysTexts TrainsDefinition.ofJson TrainsDefinition.json TrainsDefinition.overlay
        TrainsDefinition.shape.names :=
  ⟨DownloadDefinition.filledBy.overlaysTexts, TrainsDefinition.filledBy.overlaysTexts⟩

/-- A field with an escape in its name, and twice a key that is no field. The surrogate that stands
alone is passed over with the value. -/
theorem definitions_overlay_escaped :
    let first : Member := ⟨[], ['x'], [], "[\"\\ud800\",\x7b\x7d]".toList⟩
    let url : Member := ⟨['\n'], "\\u0075rl".toList, [' '], "\"h\"".toList⟩
    let second : Member := ⟨[], ['x'], [], "null".toList⟩
    let text := "\x7b\"x\":[\"\\ud800\",\x7b\x7d],\n\"\\u0075rl\" :\"h\",\"x\":null\x7d"
    IsObject text.toList [first, url, second] ∧
      DownloadDefinition.ofJson text = .ok { DownloadDefinition.initial with url := "h" } := by
  intro first url second text
  have hx : Spelled ['x'] [.plain 'x'] := .plain (by decide) (by decide) (by decide) .nil
  have hh : Spelled ['h'] [.plain 'h'] := .plain (by decide) (by decide) (by decide) .nil
  have hurl : Spelled url.key [.unit 0x75, .plain 'r', .plain 'l'] :=
    @Spelled.numbered ['0', '0', '7', '5'] _ _ rfl (by decide)
      (.plain (by decide) (by decide) (by decide) (.plain (by decide) (by decide) (by decide) .nil))
  have hfirst : IsElement first.value := by
    have hlone : IsElement "\"\\ud800\"".toList :=
      .quoted ⟨_, @Spelled.numbered ['d', '8', '0', '0'] _ _ rfl (by decide) .nil⟩
    have hempty : IsElement "\x7b\x7d".toList :=
      @IsElement.object [] [] (.none (by decide)) (by simp) (by simp)
    refine .array (.some _ ["\x7b\x7d".toList]) (List.forall_mem_cons.mpr ⟨hlone, ?_⟩)
    exact List.forall_mem_singleton.mpr hempty
  have hobject : IsObject text.toList [first, url, second] := by
    have htext : text.toList = [] ++ ('\x7b' ::
        [','].intercalate ([first, url, second].map Member.text) ++ ['\x7d']) ++ [] := by decide
    rw [htext]
    refine @IsObject.intro [] _ [] [first, url, second] (by decide) (by decide) (.some _ _) ?_ ?_
    · simp only [List.forall_mem_cons]
      exact ⟨⟨by decide, ⟨_, hx⟩, by decide⟩, ⟨by decide, ⟨_, hurl⟩, by decide⟩,
        ⟨by decide, ⟨_, hx⟩, by decide⟩, List.forall_mem_nil _⟩
    · simp only [List.forall_mem_cons]
      exact ⟨hfirst, .quoted ⟨_, hh⟩, .null, List.forall_mem_nil _⟩
  have hother (member : Member) (hkey : member.key = ['x']) :
      member.Other DownloadDefinition.shape.names := by
    have hspells : Spells member.key "x".toList := hkey ▸ ⟨_, hx, .plain .nil⟩
    have hnot : ∀ name ∈ DownloadDefinition.shape.names, "x".toList ≠ name.toList := by decide
    exact ⟨⟨"x", hspells⟩, fun name hname hother => hnot name hname (hspells.unique hother)⟩
  have hgives : url.Gives "url" (.string "h") :=
    ⟨⟨_, hurl, .unit (.inl (by decide)) (.plain (.plain .nil))⟩, .string ⟨_, hh, .plain .nil⟩⟩
  have hpresents : Presents (Member.Other DownloadDefinition.shape.names) [first, url, second]
      [("url", .string "h")] :=
    .other (hother first rfl) (.given hgives (.other (hother second rfl) .nil))
  refine ⟨hobject, ?_⟩
  exact definitions_overlay.1.given { DownloadDefinition.initial with url := "h" } hobject hpresents
    (by decide) (List.forall_mem_singleton.mpr List.mem_cons_self)

/-- As the key of an unknown member, a surrogate that stands alone is no text. -/
theorem not_definitions_overlay_all :
    ¬ (Overlays DownloadDefinition.ofJson DownloadDefinition.json DownloadDefinition.overlay
        (Member.Unknown DownloadDefinition.shape.names) ∧
      Overlays TrainsDefinition.ofJson TrainsDefinition.json TrainsDefinition.overlay
        (Member.Unknown TrainsDefinition.shape.names)) := by
  intro h
  let lone : Member := ⟨[], "\\ud800".toList, [], ['1']⟩
  have hlone : Spelled lone.key [.unit 0xD800] :=
    @Spelled.numbered ['d', '8', '0', '0'] _ _ rfl (by decide) .nil
  have hwhole : IsWhole ['1'] := .digits ⟨by decide, List.forall_mem_singleton.mpr rfl⟩ (by decide)
  have hone : IsElement ['1'] := .numeral (.unsigned hwhole .none .none)
  have hobject : IsObject "\x7b\"\\ud800\":1\x7d".toList [lone] :=
    @IsObject.intro [] _ [] [lone] (by decide) (by decide) (.some _ _)
      (List.forall_mem_singleton.mpr ⟨by decide, ⟨_, hlone⟩, by decide⟩)
      (List.forall_mem_singleton.mpr hone)
  have hunknown : lone.Unknown DownloadDefinition.shape.names := by
    rintro name - ⟨pieces, hspelled, hmeans⟩
    have hpieces := (hlone.scan []).symm.trans (hspelled.scan [])
    obtain rfl := (Prod.mk.inj hpieces).1
    generalize name.toList = text at hmeans
    cases hmeans with
    | unit hn => exact absurd hn (by decide)
  have hread := h.1.given DownloadDefinition.initial hobject (.other hunknown .nil) .nil (by simp)
  have hrefused : DownloadDefinition.ofJson "\x7b\"\\ud800\":1\x7d" = .error .malformed := by
    decide +kernel
  exact absurd (hrefused.symm.trans hread) (by simp)

end Throughput
