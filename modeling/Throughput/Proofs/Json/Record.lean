import Throughput.Proofs.Json.Document

/-!
# Records read back

Written numbers, texts and lists are read as what they were written for, and a record whose entries
stand in the order of its fields is read as the list of their values.
-/

namespace Throughput.Json

/-! ## Leaves and lists -/

namespace Node

theorem upTo_natural {limit n : Nat} (h : n ≤ limit) :
    (Value.natural n).node.upTo limit = .ok n := by
  rw [Value.node]
  simp [upTo, h, bind, Except.bind]

@[simp]
theorem word16_natural (n : UInt16) : (Value.natural n.toNat).node.word16 = .ok n := by
  have hlimit : n.toNat ≤ Numeric.maxWord16 := Nat.le_of_lt_succ n.toNat_lt
  rw [word16, upTo_natural hlimit, Except.map, UInt16.ofNat_toNat]

@[simp]
theorem word32_natural (n : UInt32) : (Value.natural n.toNat).node.word32 = .ok n := by
  have hlimit : n.toNat ≤ Numeric.maxWord32 := Nat.le_of_lt_succ n.toNat_lt
  rw [word32, upTo_natural hlimit, Except.map, UInt32.ofNat_toNat]

@[simp]
theorem word64_natural (n : UInt64) : (Value.natural n.toNat).node.word64 = .ok n := by
  have hlimit : n.toNat ≤ Numeric.maxWord64 := Nat.le_of_lt_succ n.toNat_lt
  rw [word64, upTo_natural hlimit, Except.map, UInt64.ofNat_toNat]

@[simp]
theorem string_string (text : String) : (Value.string text).node.string = .ok text := by
  simp [Value.node, string, chars, Except.map]

@[simp]
theorem bool_boolean (b : Bool) : (Value.boolean b).node.bool = .ok b := by
  simp [Value.node, bool]

theorem list_map {α : Type} {read : Node → Outcome α} {write : α → Value} {items : List α}
    (h : ∀ item ∈ items, read (write item).node = .ok item) :
    (Value.array (items.map write)).node.list read = .ok items := by
  have hitems : (items.map fun item => (write item).node).mapM read = .ok items := by
    induction items with
    | nil => rfl
    | cons item items ih =>
      rw [List.map_cons, List.mapM_cons, h item List.mem_cons_self,
        ih fun other hother => h other (List.mem_cons_of_mem _ hother)]
      rfl
  rw [Value.node, Value.itemNodes_eq, List.map_map]
  simp only [list, Function.comp_def, hitems]
  rfl

theorem list_doubles {xs : List Float} (h : ∀ x ∈ xs, ReadsBack x) :
    (Value.doubles xs).node.list double = .ok xs :=
  list_map fun x hx => by rw [Value.node, (h x hx).leaf_eq.1]

end Node

theorem Value.readable_doubles {xs : List Float} (h : ∀ x ∈ xs, ReadsBack x) :
    (Value.doubles xs).Readable := by
  refine .array fun item hitem => ?_
  obtain ⟨x, hx, rfl⟩ := List.mem_map.mp hitem
  exact .double (h x hx)

/-! ## Values that are kept -/

theorem keep_double {x : Float} (h : ReadsBack x) (depth : Nat) :
    (Value.double x).node.keep depth = .ok () := by
  have hdouble := h.leaf_eq.1
  rw [Value.node, Node.keep]
  cases hvalue : (Amount.leaf x).value with
  | ok n => rfl
  | error fault =>
    rw [Node.double, hvalue] at hdouble
    exact absurd hdouble (by simp [bind, Except.bind])

theorem keepItems_ok {depth : Nat} {items : List Node} (h : ∀ item ∈ items, item.keep depth = .ok ()) :
    Node.keepItems depth items = .ok () := by
  induction items with
  | nil => rfl
  | cons item items ih =>
    rw [Node.keepItems, h item List.mem_cons_self]
    exact ih fun other hother => h other (List.mem_cons_of_mem _ hother)

theorem keep_array {depth : Nat} {items : List Value}
    (h : ∀ item ∈ items, item.node.keep depth = .ok ()) :
    (Value.array items).node.keep (depth + 1) = .ok () := by
  have hitems : Node.keepItems depth (items.map Value.node) = .ok () := by
    refine keepItems_ok fun node hnode => ?_
    obtain ⟨item, hitem, rfl⟩ := List.mem_map.mp hnode
    exact h item hitem
  rw [Value.node, Value.itemNodes_eq, Node.keep, hitems]
  rfl

theorem keep_doubles {xs : List Float} (h : ∀ x ∈ xs, ReadsBack x) (depth : Nat) :
    (Value.doubles xs).node.keep (depth + 1) = .ok () := by
  refine keep_array fun item hitem => ?_
  obtain ⟨x, hx, rfl⟩ := List.mem_map.mp hitem
  exact keep_double (h x hx) depth

/-! ## Records -/

namespace Shape

variable {σ : Type} {shape : Shape σ}

theorem find?_name {fields : List (FieldShape σ)} (hnames : (fields.map (·.name)).Nodup)
    {field : FieldShape σ} (hfield : field ∈ fields) :
    fields.find? (fun other => other.name = field.name) = some field := by
  induction fields with
  | nil => exact absurd hfield List.not_mem_nil
  | cons first fields ih =>
    rw [List.map_cons, List.nodup_cons] at hnames
    rcases List.mem_cons.mp hfield with rfl | hfield
    · simp
    · have hother : first.name ≠ field.name :=
        fun h => hnames.1 (h ▸ List.mem_map_of_mem hfield)
      rw [List.find?_cons_of_neg (by simpa using hother), ih hnames.2 hfield]

/-- Entries in the order of the fields are read as the list of their values is. -/
theorem readEntries_zip (hnames : (shape.fields.map (·.name)).Nodup) (seen : List String)
    {todo : List (FieldShape σ)} (htodo : ∀ field ∈ todo, field ∈ shape.fields)
    (hfresh : (seen.reverse ++ todo.map (·.name)).Nodup) {values : List Value}
    (hlength : todo.length = values.length) (record : σ) :
    shape.readEntries seen record (Value.entryNodes ((todo.map (·.name)).zip values)) =
      (readItems todo record (values.map Value.node) .closed).map fun filled =>
        ((todo.map (·.name)).reverse ++ seen, filled.2) := by
  induction todo generalizing seen values record with
  | nil =>
    obtain rfl := List.length_eq_zero_iff.mp hlength.symm
    rfl
  | cons field todo ih =>
    rcases values with _ | ⟨value, values⟩
    · exact absurd hlength (by simp)
    have hseen : seen.contains field.name = false := by
      have hapart := (List.nodup_append.mp hfresh).2.2
      rw [List.contains_eq_mem, decide_eq_false_iff_not]
      exact fun hmem => hapart _ (List.mem_reverse.mpr hmem) _ List.mem_cons_self rfl
    have hfield : shape.field? field.name = some field :=
      find?_name hnames (htodo field List.mem_cons_self)
    have hrest := ih (field.name :: seen)
      (fun other hother => htodo other (List.mem_cons_of_mem _ hother)) (by simpa using hfresh)
      (by simpa using hlength)
    rw [List.map_cons, List.zip_cons_cons, Value.entryNodes, readEntries, List.map_cons, readItems]
    simp only [bind, Except.bind, String.ofList_toList, hfield, hseen]
    cases field.read value.node record with
    | error fault => rfl
    | ok next => simpa [Except.bind] using hrest next

theorem read_zip (hnames : (shape.fields.map (·.name)).Nodup) (values : List Value)
    (hlength : shape.fields.length = values.length) {record : σ}
    (hitems : readItems shape.fields shape.initial (values.map Value.node) .closed =
      .ok ([], record)) :
    shape.read (Value.object ((shape.fields.map (·.name)).zip values)).node = .ok record := by
  have hentries := readEntries_zip hnames [] (fun _ h => h) (by simpa using hnames) hlength
    shape.initial
  rw [Value.node, read, hentries, hitems]
  simp [Except.map, bind, Except.bind, Ending.check]

end Shape

end Throughput.Json
