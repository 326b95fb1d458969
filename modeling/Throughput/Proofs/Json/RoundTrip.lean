import Throughput.Json.Definition
import Throughput.Json.Result
import Throughput.Proofs.Json.Record

/-!
# Definitions and results read back

Every definition and every result is read back from the text written for it, in either layout, if
its doubles are.
-/

namespace Throughput

open Json

namespace DownloadDefinition

theorem readable_json (definition : DownloadDefinition) : definition.json.Readable := by
  refine .object fun entry hentry => ?_
  simp only [List.mem_cons, List.not_mem_nil, or_false] at hentry
  rcases hentry with rfl | rfl | rfl | rfl | rfl | rfl
  · exact .string _
  · exact .natural (Nat.le_trans (Nat.le_of_lt definition.threads.toNat_lt) (by decide))
  · exact .natural (Nat.le_of_lt_succ definition.rampUp.toNat_lt)
  · exact .natural (Nat.le_of_lt_succ definition.targetTime.toNat_lt)
  · exact .natural (Nat.le_of_lt_succ definition.slotLength.toNat_lt)
  · exact .boolean _

theorem read_json (definition : DownloadDefinition) :
    shape.read definition.json.node = .ok definition := by
  have hnames : (shape.fields.map (·.name)).Nodup := by decide
  refine Shape.read_zip hnames [.string definition.url, .natural definition.threads.toNat,
    .natural definition.rampUp.toNat, .natural definition.targetTime.toNat,
    .natural definition.slotLength.toNat, .boolean definition.avoidCaches] rfl ?_
  simp [shape, fields, Shape.readItems, bind, Except.bind, pure, Except.pure, Except.map,
    Ending.checkShort]

theorem ofJson_render (definition : DownloadDefinition) (layout : Layout) :
    ofJson (definition.json.render layout) = .ok definition := by
  rw [ofJson, decode_render definition.readable_json, read_json]

end DownloadDefinition

namespace TrainsDefinition

theorem readable_json (definition : TrainsDefinition) : definition.json.Readable := by
  refine .object fun entry hentry => ?_
  simp only [List.mem_cons, List.not_mem_nil, or_false] at hentry
  rcases hentry with rfl | rfl | rfl | rfl
  · exact .natural (Nat.le_trans (Nat.le_of_lt definition.iterations.toNat_lt) (by decide))
  · exact .natural (Nat.le_trans (Nat.le_of_lt definition.trainLength.toNat_lt) (by decide))
  · exact .natural (Nat.le_of_lt_succ definition.packetSize.toNat_lt)
  · exact .natural (Nat.le_of_lt_succ definition.trainGap.toNat_lt)

theorem read_json (definition : TrainsDefinition) :
    shape.read definition.json.node = .ok definition := by
  have hnames : (shape.fields.map (·.name)).Nodup := by decide
  refine Shape.read_zip hnames [.natural definition.iterations.toNat,
    .natural definition.trainLength.toNat, .natural definition.packetSize.toNat,
    .natural definition.trainGap.toNat] rfl ?_
  simp [shape, fields, Shape.readItems, bind, Except.bind, pure, Except.pure, Except.map,
    Ending.checkShort]

theorem ofJson_render (definition : TrainsDefinition) (layout : Layout) :
    ofJson (definition.json.render layout) = .ok definition := by
  rw [ofJson, decode_render definition.readable_json, read_json]

end TrainsDefinition

theorem Kind.ofJson_render (kind : Kind) (layout : Layout) :
    ofJson (kind.json.render layout) = .ok kind := by
  rw [ofJson, json, decode_render (.string _), Value.node, ofNode]
  simp [ofChars, ofName?_name, bind, Except.bind]

namespace DownloadResult

def doubles (result : DownloadResult) : List Float :=
  result.bandwidth :: (result.perThread ++ result.slotsPerThread.flatten)

section

variable {result : DownloadResult} (h : ∀ x ∈ result.doubles, ReadsBack x)

include h

theorem readsBack_bandwidth : ReadsBack result.bandwidth :=
  h _ List.mem_cons_self

theorem readsBack_perThread : ∀ x ∈ result.perThread, ReadsBack x :=
  fun x hx => h x (List.mem_cons_of_mem _ (List.mem_append_left _ hx))

theorem readsBack_slots : ∀ xs ∈ result.slotsPerThread, ∀ x ∈ xs, ReadsBack x :=
  fun _ hxs x hx => h x (List.mem_cons_of_mem _
    (List.mem_append_right _ (List.mem_flatten_of_mem hxs hx)))

theorem readable_entries : ∀ entry ∈ result.entries, entry.2.Readable := by
  intro entry hentry
  simp only [entries, List.mem_cons, List.not_mem_nil, or_false] at hentry
  rcases hentry with rfl | rfl | rfl | rfl
  · exact .natural (Nat.le_of_lt_succ result.threads.toNat_lt)
  · exact .double (readsBack_bandwidth h)
  · exact Value.readable_doubles (readsBack_perThread h)
  · refine .array fun item hitem => ?_
    obtain ⟨xs, hxs, rfl⟩ := List.mem_map.mp hitem
    exact Value.readable_doubles (readsBack_slots h xs hxs)

theorem keep_entries (depth : Nat) :
    ∀ entry ∈ result.entries, entry.2.node.keep (depth + 2) = .ok () := by
  intro entry hentry
  simp only [entries, List.mem_cons, List.not_mem_nil, or_false] at hentry
  rcases hentry with rfl | rfl | rfl | rfl
  · rfl
  · exact keep_double (readsBack_bandwidth h) _
  · exact keep_doubles (readsBack_perThread h) _
  · refine keep_array fun item hitem => ?_
    obtain ⟨xs, hxs, rfl⟩ := List.mem_map.mp hitem
    exact keep_doubles (readsBack_slots h xs hxs) depth

theorem read_json : shape.read result.json.node = .ok result := by
  have hnames : (shape.fields.map (·.name)).Nodup := by decide
  have hbandwidth := (readsBack_bandwidth h).leaf_eq.1
  have hperThread := Node.list_doubles (readsBack_perThread h)
  have hslots : (Value.array (result.slotsPerThread.map .doubles)).node.list
      (Node.list Node.double) = .ok result.slotsPerThread :=
    Node.list_map fun xs hxs => Node.list_doubles (readsBack_slots h xs hxs)
  refine Shape.read_zip hnames [.natural result.threads.toNat, .double result.bandwidth,
    .doubles result.perThread, .array (result.slotsPerThread.map .doubles)] rfl ?_
  rw [← Value.node] at hbandwidth
  simp [shape, fields, Shape.readItems, hbandwidth, hperThread, hslots, bind, Except.bind, pure,
    Except.pure, Except.map, Ending.checkShort]

theorem ofJson_render (layout : Layout) : ofJson (result.json.render layout) = .ok result := by
  rw [ofJson, json, decode_render (.object (readable_entries h)), ← json, read_json h]

end

end DownloadResult

namespace TrainsResult

def doubles (result : TrainsResult) : List Float :=
  result.sending ++ result.receiving

section

variable {result : TrainsResult} (h : ∀ x ∈ result.doubles, ReadsBack x)

include h

theorem readsBack_sending : ∀ x ∈ result.sending, ReadsBack x :=
  fun x hx => h x (List.mem_append_left _ hx)

theorem readsBack_receiving : ∀ x ∈ result.receiving, ReadsBack x :=
  fun x hx => h x (List.mem_append_right _ hx)

theorem readable_entries : ∀ entry ∈ result.entries, entry.2.Readable := by
  intro entry hentry
  simp only [entries, List.mem_cons, List.not_mem_nil, or_false] at hentry
  rcases hentry with rfl | rfl
  · exact Value.readable_doubles (readsBack_sending h)
  · exact Value.readable_doubles (readsBack_receiving h)

theorem keep_entries (depth : Nat) :
    ∀ entry ∈ result.entries, entry.2.node.keep (depth + 1) = .ok () := by
  intro entry hentry
  simp only [entries, List.mem_cons, List.not_mem_nil, or_false] at hentry
  rcases hentry with rfl | rfl
  · exact keep_doubles (readsBack_sending h) depth
  · exact keep_doubles (readsBack_receiving h) depth

theorem read_json : shape.read result.json.node = .ok result := by
  have hnames : (shape.fields.map (·.name)).Nodup := by decide
  have hsending := Node.list_doubles (readsBack_sending h)
  have hreceiving := Node.list_doubles (readsBack_receiving h)
  refine Shape.read_zip hnames [.doubles result.sending, .doubles result.receiving] rfl ?_
  simp [shape, fields, Shape.readItems, hsending, hreceiving, bind, Except.bind, pure, Except.pure,
    Except.map, Ending.checkShort]

theorem ofJson_render (layout : Layout) : ofJson (result.json.render layout) = .ok result := by
  rw [ofJson, json, decode_render (.object (readable_entries h)), ← json, read_json h]

end

end TrainsResult

namespace MeasurementResult

def doubles : MeasurementResult → List Float
  | .download result => result.doubles
  | .trains result => result.doubles

/-- Behind the tag every other entry is kept as it is. -/
theorem splitTag_others {entries : List (String × Value)} (hnames : ∀ entry ∈ entries, entry.1 ≠ tagName)
    (hkeep : ∀ entry ∈ entries, entry.2.node.keep depthLimit = .ok ()) (tag : Option Kind) :
    splitTag tag (Value.entryNodes entries) = .ok (tag, Value.entryNodes entries) := by
  induction entries with
  | nil => rfl
  | cons entry entries ih =>
    have hrest := ih (fun other hother => hnames other (List.mem_cons_of_mem _ hother))
      fun other hother => hkeep other (List.mem_cons_of_mem _ hother)
    have hname : String.ofList entry.1.toList ≠ tagName := by
      rw [String.ofList_toList]
      exact hnames entry List.mem_cons_self
    rw [Value.entryNodes, splitTag]
    simp only [bind, Except.bind, if_neg hname, hkeep entry List.mem_cons_self, hrest]
    rfl

/-- A tagged record is read as the record behind its tag. -/
theorem ofNode_tagged {entries : List (String × Value)} (kind : Kind)
    (hnames : ∀ entry ∈ entries, entry.1 ≠ tagName)
    (hkeep : ∀ entry ∈ entries, entry.2.node.keep depthLimit = .ok ()) :
    ofNode (Value.object ((tagName, .string kind.name) :: entries)).node =
      ofKept kind (Value.object entries).node := by
  have htag : Kind.ofTag (Value.string kind.name).node = .ok kind := by
    simp [Kind.ofTag, Value.node, Node.chars, Kind.ofChars, Kind.ofName?_name, bind, Except.bind]
  rw [Value.node, Value.entryNodes, ofNode, splitTag]
  simp only [bind, Except.bind, String.ofList_toList, if_true, htag,
    splitTag_others hnames hkeep (some kind), Ending.check, Option.isSome_none]
  rw [Value.node]
  rfl

theorem readable_json {result : MeasurementResult} (h : ∀ x ∈ result.doubles, ReadsBack x) :
    result.json.Readable := by
  cases result with
  | download result =>
    exact .object (List.forall_mem_cons.mpr ⟨.string _, DownloadResult.readable_entries h⟩)
  | trains result =>
    exact .object (List.forall_mem_cons.mpr ⟨.string _, TrainsResult.readable_entries h⟩)

theorem read_json {result : MeasurementResult} (h : ∀ x ∈ result.doubles, ReadsBack x) :
    ofNode result.json.node = .ok result := by
  cases result with
  | download result =>
    have hnames : ∀ entry ∈ result.entries, entry.1 ≠ tagName := by
      simp [DownloadResult.entries, tagName]
    rw [json, ofNode_tagged .httpDownload hnames (DownloadResult.keep_entries h 124), ofKept]
    change Except.mapError _ (Except.map _ (DownloadResult.shape.read result.json.node)) = _
    rw [DownloadResult.read_json h]
    rfl
  | trains result =>
    have hnames : ∀ entry ∈ result.entries, entry.1 ≠ tagName := by
      simp [TrainsResult.entries, tagName]
    rw [json, ofNode_tagged .packetTrains hnames (TrainsResult.keep_entries h 125), ofKept]
    change Except.mapError _ (Except.map _ (TrainsResult.shape.read result.json.node)) = _
    rw [TrainsResult.read_json h]
    rfl

theorem ofJson_render {result : MeasurementResult} (h : ∀ x ∈ result.doubles, ReadsBack x)
    (layout : Layout) : ofJson (result.json.render layout) = .ok result := by
  rw [ofJson, decode_render (readable_json h), read_json h]

/-- What is printed has a line end behind it. -/
theorem ofJson_report {result : MeasurementResult} (h : ∀ x ∈ result.doubles, ReadsBack x) :
    ofJson result.report = .ok result ∧ ofJson (result.report ++ "\n") = .ok result := by
  have hprinted : result.report ++ "\n" =
      String.ofList (result.json.chars .pretty 0 ++ ['\n']) := by
    rw [report, Value.render, String.ofList_append]
  have hblanks : ∀ c ∈ ['\n'], Token.isBlank c := List.forall_mem_singleton.mpr rfl
  refine ⟨ofJson_render h .pretty, ?_⟩
  rw [ofJson, hprinted, decode_chars (readable_json h) .pretty hblanks, read_json h]

end MeasurementResult

namespace Json

/-- A value is read back from its own text in either layout. If it was read from some text before,
its own text is read the same. -/
def RoundTrips {α : Type} (json : α → Value) (ofJson : String → Outcome α) (a : α) : Prop :=
  ∀ layout, ofJson ((json a).render layout) = .ok a ∧
    ∀ text, ofJson text = .ok a → ofJson ((json a).render layout) = ofJson text

theorem RoundTrips.of_render {α : Type} {json : α → Value} {ofJson : String → Outcome α} {a : α}
    (h : ∀ layout, ofJson ((json a).render layout) = .ok a) : RoundTrips json ofJson a :=
  fun layout => ⟨h layout, fun _ htext => (h layout).trans htext.symm⟩

/-- Definitions and kinds are always read back, and so are results whose doubles read back from
their printed forms. -/
theorem round_trip :
    (∀ definition, RoundTrips DownloadDefinition.json DownloadDefinition.ofJson definition) ∧
    (∀ definition, RoundTrips TrainsDefinition.json TrainsDefinition.ofJson definition) ∧
    (∀ kind, RoundTrips Kind.json Kind.ofJson kind) ∧
    (∀ result : DownloadResult, (∀ x ∈ result.doubles, ReadsBack x) →
      RoundTrips DownloadResult.json DownloadResult.ofJson result) ∧
    (∀ result : TrainsResult, (∀ x ∈ result.doubles, ReadsBack x) →
      RoundTrips TrainsResult.json TrainsResult.ofJson result) ∧
    (∀ result : MeasurementResult, (∀ x ∈ result.doubles, ReadsBack x) →
      RoundTrips MeasurementResult.json MeasurementResult.ofJson result ∧
      MeasurementResult.ofJson result.report = .ok result ∧
      MeasurementResult.ofJson (result.report ++ "\n") = .ok result) := by
  refine ⟨fun definition => ?_, fun definition => ?_, fun kind => ?_, fun result h => ?_,
    fun result h => ?_, fun result h => ⟨?_, MeasurementResult.ofJson_report h⟩⟩
  · exact .of_render definition.ofJson_render
  · exact .of_render definition.ofJson_render
  · exact .of_render kind.ofJson_render
  · exact .of_render (DownloadResult.ofJson_render h)
  · exact .of_render (TrainsResult.ofJson_render h)
  · exact .of_render (MeasurementResult.ofJson_render h)

theorem round_trip_download :
    let result : MeasurementResult := .download ⟨2, 94371840.25, [0.5, -0.0], [[1e-7], []]⟩
    (∀ x ∈ result.doubles, ReadsBack x) ∧
      MeasurementResult.ofJson (result.report ++ "\n") = .ok result := by
  intro result
  have h : ∀ x ∈ result.doubles, ReadsBack x := by
    intro x hx
    simp only [result, MeasurementResult.doubles, DownloadResult.doubles, List.flatten_cons,
      List.flatten_nil, List.append_nil, List.cons_append, List.nil_append, List.mem_cons,
      List.not_mem_nil, or_false] at hx
    rcases hx with rfl | rfl | rfl | rfl <;> with_unfolding_all rfl
  exact ⟨h, (round_trip.2.2.2.2.2 result h).2.2⟩

end Json

end Throughput
