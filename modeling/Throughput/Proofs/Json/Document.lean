import Throughput.Proofs.Json.Value

/-!
# Trees of written values

A written value is read as its own tree, with every list closed.
-/

namespace Throughput.Json

namespace Value

mutual

def node : Value → Node
  | .boolean b => .boolean b
  | .natural n => .number ⟨.ok (.natural n), .ok ()⟩
  | .double x => .number (Amount.leaf x)
  | .string text => .quoted ⟨.ok text.toList, .ok ()⟩
  | .array items => .array (itemNodes items) .closed
  | .object entries => .object (entryNodes entries) .closed

def itemNodes : List Value → List Node
  | [] => []
  | item :: rest => item.node :: itemNodes rest

def entryNodes : List (String × Value) → List Entry
  | [] => []
  | (key, value) :: rest => (⟨.ok key.toList, .ok ()⟩, value.node) :: entryNodes rest

end

theorem itemNodes_eq (items : List Value) : itemNodes items = items.map node := by
  induction items with
  | nil => rfl
  | cons item items ih => rw [itemNodes, ih, List.map_cons]

theorem entryNodes_eq (entries : List (String × Value)) :
    entryNodes entries = entries.map fun entry => (⟨.ok entry.1.toList, .ok ()⟩, entry.2.node) := by
  induction entries with
  | nil => rfl
  | cons entry entries ih => rw [entryNodes, ih, List.map_cons]

end Value

namespace Document

variable {stack outer : List Frame} {items : List Node} {node : Node} {tokens : List Token}

theorem value_opening_array {first : Token} (hfirst : ∀ bracket, first ≠ .closing bracket) :
    value stack (.opening .array :: first :: tokens) =
      value (.array [] :: stack) (first :: tokens) := by
  rw [value]
  exact fun rest h => hfirst _ (List.cons.inj h).1

theorem value_opening_object {leaf : Leaf (List Char)} :
    value stack (.opening .object :: .quoted leaf :: tokens) =
      key stack [] (.quoted leaf :: tokens) := by
  rw [value]
  exact fun rest h => Token.noConfusion (List.cons.inj h).1

theorem finish_comma_array {first : Token} (hfirst : ∀ bracket, first ≠ .closing bracket) :
    finish (.array items :: outer) node (.comma :: first :: tokens) =
      value (.array (items ++ [node]) :: outer) (first :: tokens) := by
  rw [finish]
  · simp
  · exact fun rest h => hfirst _ (List.cons.inj h).1

end Document

open Document

/-- The tokens are read as the tree, wherever they stand. They do not begin with the end of a
list. -/
structure ReadAs (tokens : List Token) (node : Node) : Prop where
  begins : ∃ first others, tokens = first :: others ∧ ∀ bracket, first ≠ .closing bracket
  value_append (stack : List Frame) (rest : List Token) :
    Document.value stack (tokens ++ rest) = finish stack node rest

section Lists

variable {α : Type} {tokens : α → List Token} {node : α → Node} {key : α → Leaf (List Char)}
  {item : α} {items : List α}

theorem begins_intercalate (items : List α) (h : ReadAs (tokens item) (node item))
    (rest : List Token) :
    ∃ first others, [.comma].intercalate ((item :: items).map tokens) ++ rest = first :: others ∧
      ∀ bracket, first ≠ .closing bracket := by
  obtain ⟨first, others, htokens, hfirst⟩ := h.begins
  cases items with
  | nil => exact ⟨first, others ++ rest, by simp [htokens, List.intercalate], hfirst⟩
  | cons next items =>
    rw [List.map_cons, List.map_cons, List.intercalate_cons_cons, htokens]
    exact ⟨first, _, rfl, hfirst⟩

/-- The rest of an array, from one of its items on. -/
theorem value_items (h : ∀ other ∈ item :: items, ReadAs (tokens other) (node other))
    (stack : List Frame) (done : List Node) (rest : List Token) :
    Document.value (.array done :: stack)
        ([.comma].intercalate ((item :: items).map tokens) ++ .closing .array :: rest) =
      finish stack (.array (done ++ (item :: items).map node) .closed) rest := by
  induction items generalizing item done with
  | nil =>
    rw [List.map_singleton, List.intercalate_singleton,
      (h item List.mem_cons_self).value_append, finish]
    rfl
  | cons next items ih =>
    have hrest : ∀ other ∈ next :: items, ReadAs (tokens other) (node other) :=
      fun other hother => h other (List.mem_cons_of_mem _ hother)
    have hitems := ih hrest (done ++ [node item])
    obtain ⟨first, others, htokens, hfirst⟩ :=
      begins_intercalate items (hrest next List.mem_cons_self) (.closing .array :: rest)
    rw [List.map_cons, List.map_cons, List.intercalate_cons_cons, ← List.map_cons,
      List.append_assoc, List.append_assoc, (h item List.mem_cons_self).value_append,
      List.singleton_append, htokens, finish_comma_array hfirst, ← htokens, hitems,
      List.append_assoc]
    rfl

theorem ReadAs.array (h : ∀ item ∈ items, ReadAs (tokens item) (node item)) :
    ReadAs (.opening .array :: [.comma].intercalate (items.map tokens) ++ [.closing .array])
      (.array (items.map node) .closed) := by
  refine ⟨⟨_, _, rfl, by simp⟩, fun stack rest => ?_⟩
  rw [List.append_assoc, List.cons_append, List.singleton_append]
  cases items with
  | nil =>
    change Document.value stack (.opening .array :: .closing .array :: rest) = _
    rw [Document.value]
    rfl
  | cons item items =>
    obtain ⟨first, others, htokens, hfirst⟩ :=
      begins_intercalate items (h item List.mem_cons_self) (.closing .array :: rest)
    rw [htokens, value_opening_array hfirst, ← htokens, value_items h stack [] rest,
      List.nil_append]

/-- The rest of an object, from one of its entries on. -/
theorem key_entries (h : ∀ other ∈ item :: items, ReadAs (tokens other) (node other))
    (stack : List Frame) (done : List Entry) (rest : List Token) :
    Document.key stack done
        ([.comma].intercalate
          ((item :: items).map fun other => .quoted (key other) :: .colon :: tokens other) ++
            .closing .object :: rest) =
      finish stack
        (.object (done ++ (item :: items).map fun other => (key other, node other)) .closed) rest := by
  induction items generalizing item done with
  | nil =>
    rw [List.map_singleton, List.intercalate_singleton, List.cons_append, List.cons_append,
      Document.key, (h item List.mem_cons_self).value_append, finish]
    rfl
  | cons next items ih =>
    have hentries := ih (fun other hother => h other (List.mem_cons_of_mem _ hother))
      (done ++ [(key item, node item)])
    simp only [List.map_cons] at hentries
    simp only [List.map_cons, List.intercalate_cons_cons, List.append_assoc, List.cons_append]
    rw [Document.key, (h item List.mem_cons_self).value_append, List.nil_append, finish, hentries,
      List.append_assoc]
    rfl

theorem ReadAs.object (h : ∀ item ∈ items, ReadAs (tokens item) (node item)) :
    ReadAs
      (.opening .object ::
        [.comma].intercalate (items.map fun item => .quoted (key item) :: .colon :: tokens item) ++
          [.closing .object])
      (.object (items.map fun item => (key item, node item)) .closed) := by
  refine ⟨⟨_, _, rfl, by simp⟩, fun stack rest => ?_⟩
  rw [List.append_assoc, List.cons_append, List.singleton_append]
  cases items with
  | nil =>
    change Document.value stack (.opening .object :: .closing .object :: rest) = _
    rw [Document.value]
    rfl
  | cons item items =>
    obtain ⟨others, htokens⟩ : ∃ others, [.comma].intercalate
        ((item :: items).map fun item => .quoted (key item) :: .colon :: tokens item) ++
          .closing .object :: rest = .quoted (key item) :: others := by
      cases items with
      | nil => exact ⟨_, rfl⟩
      | cons next items => exact ⟨_, rfl⟩
    rw [htokens, value_opening_object, ← htokens, key_entries h stack [] rest, List.nil_append]

end Lists

theorem Value.Readable.readAs {value : Value} (h : value.Readable) :
    ReadAs value.tokens value.node := by
  induction h with
  | boolean | natural | double | string =>
    rw [tokens, node]
    refine ⟨⟨_, _, rfl, by simp⟩, fun stack rest => ?_⟩
    rw [List.singleton_append, Document.value]
  | array _ ih =>
    rw [tokens, node, itemTokens_eq, itemNodes_eq]
    exact .array ih
  | object _ ih =>
    rw [tokens, node, entryTokens_eq, entryNodes_eq]
    exact .object ih

/-- What is read of a text is what is read of its tree. -/
theorem decode_of_writes {α : Type} {text : List Char} {tokens : List Token} {node : Node}
    (htext : Writes text tokens) (h : ReadAs tokens node) (read : Node → Outcome α) :
    decode read (String.ofList text) = read node := by
  have htokens := htext [] (by simp [Delimited])
  rw [List.append_nil, Token.ofText_nil] at htokens
  rw [decode, String.toList_ofList, Document.ofText, htokens, h.value_append, finish_nil]
  cases hread : read node <;> simp [hread, bind, Except.bind, pure, Except.pure]

/-- A written value is read back with or without blanks behind it. -/
theorem decode_chars {α : Type} {value : Value} (h : value.Readable) (layout : Layout)
    {blanks : List Char} (hblanks : ∀ c ∈ blanks, Token.isBlank c) (read : Node → Outcome α) :
    decode read (String.ofList (value.chars layout 0 ++ blanks)) = read value.node := by
  have hwrites := (h.writes layout 0).append (.of_blanks hblanks) fun rest hrest => by
    rcases blanks with _ | ⟨c, blanks⟩
    · exact hrest
    · exact delimited_of_isBlank (hblanks c List.mem_cons_self) _
  rw [List.append_nil] at hwrites
  exact decode_of_writes hwrites h.readAs read

theorem decode_render {α : Type} {value : Value} (h : value.Readable) (layout : Layout)
    (read : Node → Outcome α) : decode read (value.render layout) = read value.node := by
  simpa [Value.render] using decode_chars h layout (fun c hc => absurd hc List.not_mem_nil) read

end Throughput.Json
