import Throughput.Proofs.Json.Double

/-!
# Tokens of written values

A value is written as the same tokens in both layouts, and what follows it does not change them.
-/

namespace Throughput.Json

open Token

/-- A value whose numbers are read as they are. -/
inductive Value.Readable : Value → Prop
  | boolean (b : Bool) : Readable (.boolean b)
  | natural {n : Nat} (h : n ≤ Numeric.maxWord64) : Readable (.natural n)
  | double {x : Float} (h : ReadsBack x) : Readable (.double x)
  | string (text : String) : Readable (.string text)
  | array {items : List Value} (h : ∀ item ∈ items, Readable item) : Readable (.array items)
  | object {entries : List (String × Value)} (h : ∀ entry ∈ entries, Readable entry.2) :
      Readable (.object entries)

namespace Value

mutual

def tokens : Value → List Token
  | .boolean b => [.boolean b]
  | .natural n => [.number ⟨.ok (.natural n), .ok ()⟩]
  | .double x => [.number (Amount.leaf x)]
  | .string text => [.quoted ⟨.ok text.toList, .ok ()⟩]
  | .array items => .opening .array :: [.comma].intercalate (itemTokens items) ++ [.closing .array]
  | .object entries =>
    .opening .object :: [.comma].intercalate (entryTokens entries) ++ [.closing .object]

def itemTokens : List Value → List (List Token)
  | [] => []
  | item :: rest => item.tokens :: itemTokens rest

def entryTokens : List (String × Value) → List (List Token)
  | [] => []
  | (key, value) :: rest =>
    (.quoted ⟨.ok key.toList, .ok ()⟩ :: .colon :: value.tokens) :: entryTokens rest

end

theorem itemTokens_eq (items : List Value) : itemTokens items = items.map tokens := by
  induction items with
  | nil => rfl
  | cons item items ih => rw [itemTokens, ih, List.map_cons]

theorem entryTokens_eq (entries : List (String × Value)) :
    entryTokens entries = entries.map fun entry =>
      .quoted ⟨.ok entry.1.toList, .ok ()⟩ :: .colon :: entry.2.tokens := by
  induction entries with
  | nil => rfl
  | cons entry entries ih => rw [entryTokens, ih, List.map_cons]

theorem itemChars_eq (layout : Layout) (depth : Nat) (items : List Value) :
    itemChars layout depth items = items.map (chars layout depth) := by
  induction items with
  | nil => rfl
  | cons item items ih => rw [itemChars, ih, List.map_cons]

theorem entryChars_eq (layout : Layout) (depth : Nat) (entries : List (String × Value)) :
    entryChars layout depth entries = entries.map fun entry =>
      Quoted.encode entry.1.toList ++ layout.colon ++ chars layout depth entry.2 := by
  induction entries with
  | nil => rfl
  | cons entry entries ih => rw [entryChars, ih, List.map_cons]

end Value

/-! ## Texts and the tokens they write -/

/-- In front of anything that continues no numeral, the text is read as the tokens. -/
def Writes (text : List Char) (tokens : List Token) : Prop :=
  ∀ rest, Delimited rest → ofText (text ++ rest) = tokens ++ ofText rest

theorem delimited_of_isBlank {c : Char} (hblank : isBlank c) (rest : List Char) :
    Delimited (c :: rest) := by
  intro d hd
  obtain rfl := Option.some.inj hd
  simp only [isBlank, Bool.or_eq_true, decide_eq_true_eq] at hblank
  rcases hblank with ((rfl | rfl) | rfl) | rfl <;> decide

theorem punctuation_cases {c : Char} {token : Token} (h : punctuation? c = some token) :
    isBlank c = false ∧ (∀ rest, next c rest = (token, some rest)) ∧
      ∀ rest, Delimited (c :: rest) := by
  refine ⟨?_, fun rest => ?_, fun rest d hd => ?_⟩
  · unfold punctuation? at h
    split at h <;> first | rfl | exact absurd h (by simp)
  · rw [next, h]
  · obtain rfl := Option.some.inj hd
    unfold punctuation? at h
    split at h <;> first | decide | exact absurd h (by simp)

namespace Writes

variable {text left right : List Char} {tokens first second : List Token}

/-- A text in front of another one that begins with punctuation or a blank. -/
theorem append (hleft : Writes left first) (hright : Writes right second)
    (hdelimited : ∀ rest, Delimited rest → Delimited (right ++ rest)) :
    Writes (left ++ right) (first ++ second) := by
  intro rest hrest
  rw [List.append_assoc, hleft _ (hdelimited rest hrest), hright rest hrest, List.append_assoc]

theorem blanks (hblanks : ∀ c ∈ left, isBlank c) (h : Writes text tokens) :
    Writes (left ++ text) tokens := by
  intro rest hrest
  rw [List.append_assoc, ofText_blanks hblanks, h rest hrest]

theorem colon (layout : Layout) (h : Writes text tokens) :
    Writes (layout.colon ++ text) (.colon :: tokens) := by
  intro rest hrest
  cases layout with
  | compact =>
    rw [Layout.colon, List.append_assoc, List.singleton_append, ofText_next rfl rfl, h rest hrest]
    rfl
  | pretty =>
    rw [Layout.colon, List.append_assoc, List.cons_append, ofText_next rfl rfl,
      List.singleton_append, ofText_blank rfl, h rest hrest]
    rfl

end Writes

theorem isBlank_lineBreak {layout : Layout} {depth : Nat} {c : Char}
    (hc : c ∈ layout.lineBreak depth) : isBlank c := by
  cases layout with
  | compact => exact absurd hc List.not_mem_nil
  | pretty =>
    rcases List.mem_cons.mp hc with rfl | hc
    · rfl
    · rw [(List.mem_replicate.mp hc).2]
      rfl

theorem delimited_lineBreak {layout : Layout} {depth : Nat} {rest : List Char}
    (hrest : Delimited rest) : Delimited (layout.lineBreak depth ++ rest) := by
  cases layout with
  | compact => exact hrest
  | pretty => exact delimited_of_isBlank rfl _

section Enclose

variable {α : Type} {items : List α} {text : α → List Char} {tokens : α → List Token}

theorem Writes.intercalate (h : ∀ item ∈ items, Writes (text item) (tokens item)) :
    Writes ([','].intercalate (items.map text)) ([.comma].intercalate (items.map tokens)) := by
  induction items with
  | nil => exact fun rest _ => rfl
  | cons item items ih =>
    have hhead := h item List.mem_cons_self
    have htail := ih fun other hother => h other (List.mem_cons_of_mem _ hother)
    cases items with
    | nil => simpa [List.intercalate] using hhead
    | cons next items =>
      simp only [List.map_cons, List.intercalate_cons_cons, List.append_assoc] at htail ⊢
      have hcomma := punctuation_cases (show punctuation? ',' = some .comma from rfl)
      refine hhead.append ?_ fun rest _ => hcomma.2.2 _
      intro rest hrest
      rw [List.singleton_append, List.cons_append, ofText_next hcomma.1 (hcomma.2.1 _),
        htail rest hrest]
      rfl

theorem Writes.brackets {left right : Char} {bracket : Bracket} {body : List Char}
    {inside : List Token} (hleft : punctuation? left = some (.opening bracket))
    (hright : punctuation? right = some (.closing bracket)) (h : Writes body inside) :
    Writes (left :: body ++ [right]) (.opening bracket :: inside ++ [.closing bracket]) := by
  intro rest _
  obtain ⟨hblankLeft, hnextLeft, -⟩ := punctuation_cases hleft
  obtain ⟨hblankRight, hnextRight, hdelimited⟩ := punctuation_cases hright
  rw [List.cons_append, List.cons_append, ofText_next hblankLeft (hnextLeft _), List.append_assoc,
    List.singleton_append, h _ (hdelimited rest), ofText_next hblankRight (hnextRight rest)]
  simp only [List.cons_append, List.append_assoc, List.nil_append]

theorem Writes.of_blanks {blanks : List Char} (hblanks : ∀ c ∈ blanks, isBlank c) :
    Writes blanks [] :=
  fun rest _ => ofText_blanks hblanks rest

theorem Writes.enclose {left right : Char} {bracket : Bracket}
    (hleft : punctuation? left = some (.opening bracket))
    (hright : punctuation? right = some (.closing bracket)) (layout : Layout) (depth : Nat)
    (h : ∀ item ∈ items, Writes (text item) (tokens item)) :
    Writes (layout.enclose depth left right (items.map text))
      (.opening bracket :: [.comma].intercalate (items.map tokens) ++ [.closing bracket]) := by
  unfold Layout.enclose
  split
  · next hempty =>
    have hitems : items = [] := by simpa using hempty
    subst hitems
    exact .brackets hleft hright (.of_blanks fun c hc => absurd hc List.not_mem_nil)
  · have hlines : ∀ item ∈ items,
        Writes (layout.lineBreak (depth + 1) ++ text item) (tokens item) :=
      fun item hitem => (h item hitem).blanks fun c hc => isBlank_lineBreak hc
    have hbreak : Writes (layout.lineBreak depth) [] :=
      .of_blanks fun c hc => isBlank_lineBreak hc
    have hbody := (Writes.intercalate hlines).append hbreak fun rest hrest =>
      delimited_lineBreak hrest
    rw [List.append_nil] at hbody
    simpa [Function.comp_def] using Writes.brackets hleft hright hbody

end Enclose

theorem Value.Readable.writes {value : Value} (h : value.Readable) (layout : Layout) (depth : Nat) :
    Writes (value.chars layout depth) value.tokens := by
  induction h generalizing depth with
  | boolean b => exact fun rest _ => ofText_boolean b rest
  | natural hn => exact fun rest hrest => ofText_decimal hn hrest
  | double hx => exact hx.leaf_eq.2
  | string text => exact fun rest _ => ofText_encode text.toList rest
  | array hitems ih =>
    rw [chars, tokens, itemChars_eq, itemTokens_eq]
    exact Writes.enclose rfl rfl layout depth fun item hitem => ih item hitem (depth + 1)
  | object hentries ih =>
    rw [chars, tokens, entryChars_eq, entryTokens_eq]
    refine Writes.enclose rfl rfl layout depth fun entry hentry => ?_
    have hvalue := (ih entry hentry (depth + 1)).colon layout
    intro rest hrest
    rw [List.append_assoc, List.append_assoc, ofText_encode, ← List.append_assoc,
      hvalue rest hrest]
    rfl

end Throughput.Json
