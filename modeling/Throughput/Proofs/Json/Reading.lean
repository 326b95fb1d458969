import Mathlib.Data.List.Forall2
import Mathlib.Tactic.Choose
import Throughput.Proofs.Json.Document

/-!
# Texts of the grammar are read

Whatever the grammar calls a value is read as a tree that can be skipped, and skipping takes exactly
that value, whatever follows it. What stands for a truth value, a number or a text is read as the
same tree as the value that is written for it.
-/

namespace Throughput.Json

open Token

variable {text spelling left right body : List Char} {tokens : List Token} {node : Node}

/-! ## Tokens -/

theorem Blanks.isBlank (h : Blanks text) : ∀ c ∈ text, isBlank c := by
  intro c hc
  simpa [Token.isBlank, or_assoc] using h c hc

theorem delimited_blanks {blanks rest : List Char} (h : Blanks blanks) (hrest : Delimited rest) :
    Delimited (blanks ++ rest) := by
  cases blanks with
  | nil => exact hrest
  | cons c blanks => exact delimited_of_isBlank (h.isBlank c List.mem_cons_self) _

theorem Writes.padded (h : Writes text tokens) (hleft : Blanks left) (hright : Blanks right) :
    Writes (left ++ text ++ right) tokens := by
  have hbehind := (h.blanks hleft.isBlank).append (.of_blanks hright.isBlank)
    fun rest hrest => delimited_blanks hright hrest
  rwa [List.append_nil] at hbehind

theorem Listed.writes {α : Type} {items : List α} {texts : α → List Char}
    {written : α → List Token} (h : Listed (items.map texts) body)
    (hitems : ∀ item ∈ items, Writes (texts item) (written item)) :
    Writes body ([.comma].intercalate (items.map written)) := by
  generalize hlist : items.map texts = list at h
  cases h with
  | none hblanks =>
    obtain rfl := List.map_eq_nil_iff.mp hlist
    exact .of_blanks hblanks.isBlank
  | some first others =>
    rw [← hlist]
    exact .intercalate hitems

/-- A member in front of its value. The leaf holds what its key stands for. -/
theorem Member.writes {member : Member} {pieces : List Quoted.Piece}
    (hbefore : Blanks member.before) (hkey : Spelled member.key pieces)
    (hbetween : Blanks member.between) (hvalue : Writes member.value tokens) :
    Writes member.text (.quoted ⟨Quoted.join (.ok ()) pieces, .ok ()⟩ :: .colon :: tokens) := by
  intro rest hrest
  rw [Member.text, List.append_assoc, List.append_assoc, ofText_blanks hbefore.isBlank,
    ofText_quoted hkey, List.append_assoc, ofText_blanks hbetween.isBlank, List.cons_append,
    ofText_next rfl rfl, hvalue rest hrest]
  rfl

/-! ## Trees -/

/-- The text is read as the tree wherever it stands. -/
def ReadsAs (text : List Char) (node : Node) : Prop :=
  ∃ tokens, Writes text tokens ∧ ReadAs tokens node

theorem ReadsAs.padded (h : ReadsAs text node) (hleft : Blanks left) (hright : Blanks right) :
    ReadsAs (left ++ text ++ right) node := by
  obtain ⟨tokens, hwrites, hread⟩ := h
  exact ⟨tokens, hwrites.padded hleft hright, hread⟩

theorem ReadsAs.array {items : List (List Char)} {nodes : List Char → Node}
    (hbody : Listed items body) (hitems : ∀ item ∈ items, ReadsAs item (nodes item)) :
    ReadsAs ('[' :: body ++ [']']) (.array (items.map nodes) .closed) := by
  choose! written hwritten hread using hitems
  rw [← List.map_id items] at hbody
  exact ⟨_, .brackets rfl rfl (hbody.writes hwritten), .array hread⟩

/-- A member is read as an entry. The leaf of its key holds what the key stands for. -/
structure Member.ReadsAs (member : Member) (entry : Entry) : Prop where
  before : Blanks member.before
  key : ∃ pieces, Spelled member.key pieces ∧ entry.1 = ⟨Quoted.join (.ok ()) pieces, .ok ()⟩
  between : Blanks member.between
  value : Json.ReadsAs member.value entry.2

theorem Member.ReadsAs.writes {member : Member} {entry : Entry} (h : member.ReadsAs entry) :
    ∃ tokens, Writes member.text (.quoted entry.1 :: .colon :: tokens) ∧
      ReadAs tokens entry.2 := by
  obtain ⟨pieces, hspelled, hleaf⟩ := h.key
  obtain ⟨tokens, hwrites, hread⟩ := h.value
  rw [hleaf]
  exact ⟨tokens, Member.writes h.before hspelled h.between hwrites, hread⟩

theorem ReadsAs.object {members : List Member} {entries : List Entry}
    (hbody : Listed (members.map Member.text) body)
    (h : List.Forall₂ Member.ReadsAs members entries) :
    ReadsAs ('\x7b' :: body ++ ['\x7d']) (.object entries .closed) := by
  obtain ⟨hlength, hzip⟩ := List.forall₂_iff_zip.mp h
  have hitems : ∀ item ∈ members.zip entries, ∃ tokens,
      Writes (Member.text item.1) (.quoted item.2.1 :: .colon :: tokens) ∧
        ReadAs tokens item.2.2 :=
    fun item hitem => (hzip hitem).writes
  choose! written hwritten hread using hitems
  rw [← List.map_fst_zip (Nat.le_of_eq hlength), List.map_map] at hbody
  have hobject : ReadsAs ('\x7b' :: body ++ ['\x7d'])
      (.object ((members.zip entries).map Prod.snd) .closed) :=
    ⟨_, .brackets rfl rfl (hbody.writes hwritten), .object hread⟩
  rwa [List.map_snd_zip (Nat.le_of_eq hlength.symm)] at hobject

theorem readsAs_single {token : Token} (htoken : ∀ bracket, token ≠ .closing bracket)
    (hwrites : Writes text [token])
    (hvalue : ∀ stack rest,
      Document.value stack (token :: rest) = Document.finish stack node rest) :
    ReadsAs text node :=
  ⟨[token], hwrites, ⟨token, [], rfl, htoken⟩, hvalue⟩

theorem IsNumeral.readsAs {numeral : Numeral} (h : IsNumeral text numeral) :
    ReadsAs text (.number ⟨numeral.number, .ok ()⟩) := by
  refine readsAs_single (by simp) (fun rest => ofText_numeral h) fun stack rest => ?_
  rw [Document.value]

theorem Spelled.readsAs {pieces : List Quoted.Piece} (h : Spelled spelling pieces) :
    ReadsAs ('"' :: spelling ++ ['"']) (.quoted ⟨Quoted.join (.ok ()) pieces, .ok ()⟩) := by
  refine readsAs_single (by simp) (fun rest _ => ofText_quoted h rest) fun stack rest => ?_
  rw [Document.value]

/-! ## Values that are skipped -/

theorem skipItems_ok {items : List Node} (h : ∀ item ∈ items, item.skip = .ok ()) :
    Node.skipItems items = .ok () := by
  induction items with
  | nil => rfl
  | cons item items ih =>
    rw [Node.skipItems, h item List.mem_cons_self]
    exact ih fun other hother => h other (List.mem_cons_of_mem _ hother)

theorem skipEntries_ok {entries : List Entry}
    (h : ∀ entry ∈ entries, entry.1.skipped = .ok () ∧ entry.2.skip = .ok ()) :
    Node.skipEntries entries = .ok () := by
  induction entries with
  | nil => rfl
  | cons entry entries ih =>
    obtain ⟨hkey, hnode⟩ := h entry List.mem_cons_self
    rw [Node.skipEntries, hkey, hnode]
    exact ih fun other hother => h other (List.mem_cons_of_mem _ hother)

/-- Values of every kind are read, and skipped by whoever does not need them. -/
theorem IsElement.readsAs (h : IsElement text) :
    ∃ node, ReadsAs text node ∧ node.skip = .ok () := by
  induction h with
  | null =>
    refine ⟨.null, readsAs_single (by simp) (fun rest _ => ofText_next rfl rfl) ?_, rfl⟩
    exact fun stack rest => by rw [Document.value]
  | boolean b =>
    refine ⟨.boolean b, readsAs_single (by simp) (fun rest _ => ofText_boolean b rest) ?_, rfl⟩
    exact fun stack rest => by rw [Document.value]
  | numeral hnumeral => exact ⟨_, hnumeral.readsAs, by rw [Node.skip]⟩
  | quoted hspelling =>
    obtain ⟨pieces, hspelled⟩ := hspelling
    exact ⟨_, hspelled.readsAs, by rw [Node.skip]⟩
  | array hbody _ ih =>
    have : Nonempty Node := ⟨.null⟩
    choose! nodes hread hskip using ih
    refine ⟨_, .array hbody hread, ?_⟩
    rw [Node.skip, skipItems_ok (List.forall_mem_map.mpr hskip)]
    rfl
  | @object members body hbody hkeyed _ ih =>
    have hentries : ∀ member ∈ members, ∃ entry, member.ReadsAs entry ∧
        entry.1.skipped = .ok () ∧ entry.2.skip = .ok () := by
      intro member hmember
      obtain ⟨hbefore, ⟨pieces, hspelled⟩, hbetween⟩ := hkeyed member hmember
      obtain ⟨node, hread, hskip⟩ := ih member hmember
      exact ⟨(_, node), ⟨hbefore, ⟨pieces, hspelled, rfl⟩, hbetween, hread⟩, rfl, hskip⟩
    have : Nonempty Entry := ⟨⟨.ok [], .ok ()⟩, .null⟩
    choose! entry hread hskip using hentries
    refine ⟨_, .object hbody (List.forall₂_map_right_iff.mpr (List.forall₂_same.mpr hread)), ?_⟩
    rw [Node.skip, skipEntries_ok (List.forall_mem_map.mpr hskip)]
    rfl
  | padded hleft hright _ ih =>
    obtain ⟨node, hread, hskip⟩ := ih
    exact ⟨node, hread.padded hleft hright, hskip⟩

/-! ## Values that are used -/

theorem Stands.writes {value : Value} (h : Stands text value) (hvalue : value.Readable) :
    Writes text value.tokens := by
  induction h with
  | boolean b => exact fun rest _ => ofText_boolean b rest
  | natural hwhole =>
    cases hvalue with
    | natural hsmall => exact fun rest hrest => ofText_whole hwhole hsmall hrest
  | string hspells =>
    obtain ⟨pieces, hspelled, hmeans⟩ := hspells
    intro rest _
    rw [ofText_quoted hspelled, hmeans.join, Value.tokens, String.toList_ofList]
    rfl
  | padded hleft hright _ ih => exact (ih hvalue).padded hleft hright

theorem Stands.readsAs {value : Value} (h : Stands text value) (hvalue : value.Readable) :
    ReadsAs text value.node :=
  ⟨value.tokens, h.writes hvalue, hvalue.readAs⟩

theorem ReadsAs.decode {α : Type} (h : ReadsAs text node) (read : Node → Outcome α) :
    Json.decode read (String.ofList text) = read node := by
  obtain ⟨tokens, hwrites, hread⟩ := h
  exact decode_of_writes hwrites hread read

end Throughput.Json
