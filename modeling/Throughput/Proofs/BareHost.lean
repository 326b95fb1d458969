import Throughput.Proofs.Text.Trim
import Throughput.Target

/-!
# Bare hosts

A text that begins with a host name is read as the web address with that host, unless the mark of a
scheme comes somewhere in its path or query. With one it counts as a complete URL, and no scheme is
found in it.
-/

namespace Throughput

open Text

namespace Url

section Clean

variable {left : List Char} (hsome : left ≠ []) (hleft : Visible left) (right : List Char)
include hsome hleft

theorem exists_clean_append : ∃ rest, clean (left ++ right) = left ++ rest := by
  have hcontrol : ∀ c ∈ left, decide (c.toNat ≤ 0x20) = false := by
    intro c hc
    have hlow := (hleft c hc).1
    simp only [decide_eq_false_iff_not]
    omega
  have hkept : ∀ c ∈ left, (!(c = '\t' || c = '\n' || c = '\r')) = true := by
    intro c hc
    have hlow := (hleft c hc).1
    simp only [Bool.not_eq_true', Bool.or_eq_false_iff, decide_eq_false_iff_not]
    refine ⟨⟨?_, ?_⟩, ?_⟩ <;> rintro rfl <;> exact absurd hlow (by decide)
  rw [clean, trimBy_append hsome hcontrol, List.filter_append, List.filter_eq_self.mpr hkept]
  exact ⟨_, rfl⟩

end Clean

theorem splitScheme?_slash {name : List Char} (hname : ∀ c ∈ name, isSchemeChar c = true)
    (rest : List Char) : splitScheme? (name ++ '/' :: rest) = none := by
  have hrest : (name ++ '/' :: rest).dropWhile isSchemeChar = '/' :: rest := by
    rw [List.dropWhile_append_of_pos hname]
    rfl
  simp [splitScheme?, hrest]

theorem splitScheme?_http (rest : List Char) :
    splitScheme? ("http://".toList ++ rest) = some ("http".toList, '/' :: '/' :: rest) := by
  rfl

/-! ### Faults of a web address -/

theorem bind_eq_error {ε α β : Type} {first : Except ε α} {next : α → Except ε β} {e : ε}
    (h : first >>= next = .error e) :
    first = .error e ∨ ∃ a, first = .ok a ∧ next a = .error e := by
  cases first with
  | error fault =>
    obtain rfl := Except.error.inj h
    exact .inl rfl
  | ok a => exact .inr ⟨a, rfl, h⟩

theorem Host.parse_ne_relative (text : List Char) :
    Host.parse text ≠ .error .relativeWithoutBase := by
  unfold Host.parse parseIpv6
  repeat' split
  all_goals simp

theorem parsePort_ne_relative (text : List Char) :
    parsePort text ≠ .error .relativeWithoutBase := by
  unfold parsePort
  repeat' split
  all_goals simp

theorem parseWeb_ne_relative (text : List Char) : parseWeb text ≠ .error .relativeWithoutBase := by
  intro h
  simp only [parseWeb] at h
  split at h
  · exact absurd h (by simp [throw, throwThe, MonadExceptOf.throw, bind, Except.bind])
  rcases bind_eq_error h with hhost | ⟨host, -, h⟩
  · exact Host.parse_ne_relative _ hhost
  rcases bind_eq_error h with hport | ⟨port, -, h⟩
  · exact parsePort_ne_relative _ hport
  · cases h

/-- A text with a host name and a slash in front has no scheme. -/
theorem parse_slash {name : List Char} (hvisible : Visible name)
    (hname : ∀ c ∈ name, isSchemeChar c = true) (rest : List Char) :
    parse (name ++ '/' :: rest) = .error .relativeWithoutBase := by
  have hslash : Visible (name ++ ['/']) := visible_append.mpr ⟨hvisible, by decide⟩
  obtain ⟨cleaned, hclean⟩ := exists_clean_append (by simp) hslash rest
  rw [List.append_assoc, List.singleton_append, List.append_assoc, List.singleton_append] at hclean
  rw [parse, hclean, splitScheme?_slash hname]

theorem parse_http (rest : List Char) :
    ∃ authority, parse ("http://".toList ++ rest) = (parseWeb authority).map .http := by
  obtain ⟨cleaned, hclean⟩ :=
    @exists_clean_append "http://".toList (by decide) (by decide) rest
  refine ⟨'/' :: '/' :: cleaned, ?_⟩
  rw [parse, hclean, splitScheme?_http]
  rfl

theorem parse_http_ne_relative (rest : List Char) :
    parse ("http://".toList ++ rest) ≠ .error .relativeWithoutBase := by
  obtain ⟨authority, hparse⟩ := parse_http rest
  rw [hparse]
  cases hweb : parseWeb authority with
  | ok address => exact nofun
  | error fault =>
    intro h
    obtain rfl := Except.error.inj h
    exact parseWeb_ne_relative authority hweb

end Url

namespace Target

def isNameChar (c : Char) : Bool :=
  c.isAlphanum || c = '.' || c = '-'

/-- A host name of ASCII letters, digits, dots and hyphens. -/
structure BareHost (host : List Char) : Prop where
  named : ∀ c ∈ host, isNameChar c = true
  first : ∃ c ∈ host.head?, c.isAlphanum = true

namespace BareHost

variable {host : List Char} (hhost : BareHost host)
include hhost

theorem ne_nil : host ≠ [] := by
  obtain ⟨c, hc, -⟩ := hhost.first
  rintro rfl
  cases hc

theorem isSchemeChar {c : Char} (hc : c ∈ host) : Url.isSchemeChar c = true := by
  have hnamed := hhost.named c hc
  simp only [isNameChar, Url.isSchemeChar, Bool.or_eq_true] at hnamed ⊢
  tauto

theorem visible : Visible host := by
  intro c hc
  have hnamed := hhost.named c hc
  simp only [isNameChar, Bool.or_eq_true, decide_eq_true_eq] at hnamed
  rcases hnamed with (halphanum | rfl) | rfl
  · exact visible_of_isAlphanum halphanum
  · decide
  · decide

theorem colon_not_mem : ':' ∉ host := by
  intro hmem
  have hnamed := hhost.named ':' hmem
  revert hnamed
  decide

/-- The text of a bare host with its path is trimmed at the end of the path. -/
theorem trim_append (path : List Char) : trim (host ++ path) = host ++ trimEnd isBlank path :=
  Text.trim_append hhost.ne_nil hhost.visible

theorem trim_http_append (path : List Char) :
    trim ("http://".toList ++ (host ++ path)) =
      "http://".toList ++ (host ++ trimEnd isBlank path) := by
  have hvisible : Visible ("http://".toList ++ host) :=
    visible_append.mpr ⟨by decide, hhost.visible⟩
  rw [← List.append_assoc, Text.trim_append (by simp) hvisible, List.append_assoc]

theorem trim_ne_nil (path : List Char) : trim (host ++ path) ≠ [] := by
  rw [hhost.trim_append]
  exact List.append_ne_nil_of_left_ne_nil hhost.ne_nil _

theorem trim_http_ne_nil (path : List Char) :
    trim ("http://".toList ++ (host ++ path)) ≠ [] := by
  rw [hhost.trim_http_append]
  exact List.append_ne_nil_of_left_ne_nil (by decide) _

/-- The mark of a scheme stands in the trimmed text if and only if it stands in the path. -/
theorem occursIn_trim_iff (path : List Char) :
    occursIn schemeMark (host ++ trimEnd isBlank path) = true ↔ schemeMark <:+: path := by
  rw [occursIn_iff]
  calc schemeMark <:+: host ++ trimEnd isBlank path
    _ ↔ schemeMark <:+: trimEnd isBlank path := cons_infix_append_iff hhost.colon_not_mem
    _ ↔ schemeMark <:+: path := concat_infix_trimEnd_iff (by decide) [':', '/'] path

end BareHost

theorem complete_http (rest : List Char) :
    complete ("http://".toList ++ rest) = "http://".toList ++ rest := by
  have hmark : schemeMark <:+: "http://".toList ++ rest := ⟨"http".toList, rest, rfl⟩
  rw [complete, if_pos (occursIn_iff.mpr hmark)]

theorem parseChars_eq_url_iff {text : List Char} (hsome : trim text ≠ []) {fault : Url.Fault} :
    parseChars text = .error (.url fault) ↔ Url.parse (complete (trim text)) = .error fault := by
  have hnonempty : (trim text).isEmpty = false := by simpa using hsome
  simp only [parseChars, hnonempty, Bool.false_eq_true, if_false]
  cases Url.parse (complete (trim text)) with
  | error other => simp
  | ok reference =>
    cases reference with
    | other scheme => simp
    | http address =>
      simp only [ofAddress, reduceCtorEq, iff_false]
      split <;> simp

theorem parseChars_congr {left right : List Char} (hleft : trim left ≠ [])
    (hright : trim right ≠ []) (hsame : complete (trim left) = complete (trim right)) :
    parseChars left = parseChars right := by
  have hleft : (trim left).isEmpty = false := by simpa using hleft
  have hright : (trim right).isEmpty = false := by simpa using hright
  simp only [parseChars, hleft, hright, hsame]

section Parse

variable {host path : List Char} (hhost : BareHost host)
include hhost

theorem parseChars_unmarked (hmark : ¬ schemeMark <:+: path) :
    parseChars (host ++ path) = parseChars ("http://".toList ++ (host ++ path)) := by
  have hbare : occursIn schemeMark (host ++ trimEnd isBlank path) = false :=
    Bool.eq_false_iff.mpr (mt (hhost.occursIn_trim_iff path).mp hmark)
  apply parseChars_congr (hhost.trim_ne_nil path) (hhost.trim_http_ne_nil path)
  rw [hhost.trim_append, hhost.trim_http_append, complete_http, complete, hbare]
  rfl

theorem parseChars_marked (hpath : path = [] ∨ path.head? = some '/')
    (hmark : schemeMark <:+: path) :
    parseChars (host ++ path) = .error (.url .relativeWithoutBase) := by
  have hslash : path.head? = some '/' := by
    rcases hpath with rfl | hslash
    · exact absurd (List.infix_nil.mp hmark) (by decide)
    · exact hslash
  obtain ⟨rest, rfl⟩ := List.head?_eq_some_iff.mp hslash
  have hrest : trimEnd isBlank ('/' :: rest) = '/' :: trimEnd isBlank rest :=
    @trimEnd_append _ ['/'] rest (List.forall_mem_singleton.mpr (by decide))
  rw [parseChars_eq_url_iff (hhost.trim_ne_nil _), hhost.trim_append, complete,
    if_pos ((hhost.occursIn_trim_iff _).mpr hmark), hrest]
  exact Url.parse_slash hhost.visible (fun c => hhost.isSchemeChar) _

theorem parseChars_http_ne_relative :
    parseChars ("http://".toList ++ (host ++ path)) ≠ .error (.url .relativeWithoutBase) := by
  rw [Ne, parseChars_eq_url_iff (hhost.trim_http_ne_nil path), hhost.trim_http_append,
    complete_http]
  exact Url.parse_http_ne_relative _

end Parse

/-- A bare host is read with `http://` in front of it if and only if its path and query hold no mark
of a scheme. With one the whole text is taken for a URL, and refused for want of a scheme. -/
theorem parse_bareHost {host path : String} (hhost : BareHost host.toList)
    (hpath : path = "" ∨ path.toList.head? = some '/') :
    (parse (host ++ path) = parse ("http://" ++ host ++ path) ↔
        ¬ schemeMark <:+: path.toList) ∧
      (schemeMark <:+: path.toList →
        parse (host ++ path) = .error (.url .relativeWithoutBase)) := by
  have hslash : path.toList = [] ∨ path.toList.head? = some '/' :=
    hpath.imp (fun h => by rw [h]; rfl) id
  have hmarked := parseChars_marked hhost hslash
  simp only [parse, String.toList_append, List.append_assoc]
  refine ⟨⟨?_, parseChars_unmarked hhost⟩, hmarked⟩
  intro hsame hmark
  rw [hmarked hmark] at hsame
  exact parseChars_http_ne_relative hhost hsame.symm

theorem parse_bareHost_query :
    (BareHost "www.example.org".toList ∧
        ("/data/1M?of=http:/x" = "" ∨ "/data/1M?of=http:/x".toList.head? = some '/')) ∧
      parse "www.example.org/data/1M?of=http:/x" =
        parse "http://www.example.org/data/1M?of=http:/x" := by
  have hhost : BareHost "www.example.org".toList :=
    ⟨List.all_eq_true.mp (by decide), 'w', rfl, by decide⟩
  have hpath : "/data/1M?of=http:/x" = "" ∨ "/data/1M?of=http:/x".toList.head? = some '/' :=
    .inr (by decide)
  exact ⟨⟨hhost, hpath⟩, (parse_bareHost hhost hpath).1.mpr (by decide)⟩

/-- The address of another page in the query of a bare host. -/
theorem not_parse_bareHost_always :
    ¬ ∀ host path : String, BareHost host.toList → (path = "" ∨ path.toList.head? = some '/') →
      parse (host ++ path) = parse ("http://" ++ host ++ path) := by
  intro hsame
  have hhost : BareHost "example.com".toList :=
    ⟨List.all_eq_true.mp (by decide), 'e', rfl, by decide⟩
  have hslash : "/?u=http://x".toList.head? = some '/' := by decide
  have hread := hsame "example.com" "/?u=http://x" hhost (.inr hslash)
  simp only [parse, String.toList_append, List.append_assoc] at hread
  rw [parseChars_marked hhost (.inr hslash) (by decide)] at hread
  exact parseChars_http_ne_relative hhost hread.symm

end Target

end Throughput
