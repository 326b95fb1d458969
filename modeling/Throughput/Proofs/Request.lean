import Mathlib.Data.List.Infix
import Throughput.Proofs.Url.Visible
import Throughput.Request

/-!
# Requests of accepted URLs

Host and path of an accepted URL are visible ASCII, and so is the timestamp. The request therefore
has the lines that its text spells out and no others.
-/

namespace Throughput

open Text

theorem exists_of_bind_eq_ok {ε α β : Type} {first : Except ε α} {next : α → Except ε β} {b : β}
    (h : first >>= next = .ok b) : ∃ a, first = .ok a ∧ next a = .ok b := by
  cases first with
  | error e => exact absurd h (by simp [bind, Except.bind])
  | ok a => exact ⟨a, rfl, h⟩

namespace Target

/-- What a target has to be for its request to keep its lines. -/
structure Sound (target : Target) : Prop where
  host_ne_empty : target.host ≠ ""
  head?_path : target.path.toList.head? = some '/'
  visible_host : Visible target.host.toList
  visible_path : Visible target.path.toList

theorem visible_parseWeb {source : List Char} {address : Url.WebAddress}
    (h : Url.parseWeb source = .ok address) :
    Visible address.host.text ∧ address.path.head? = some '/' ∧ Visible address.path ∧
      ∀ query, address.query = some query → Visible query := by
  simp only [Url.parseWeb] at h
  split at h
  · exact absurd h (by simp [throw, throwThe, MonadExceptOf.throw, bind, Except.bind])
  obtain ⟨host, hhost, h⟩ := exists_of_bind_eq_ok h
  obtain ⟨port, -, h⟩ := exists_of_bind_eq_ok h
  obtain rfl := Except.ok.inj h
  refine ⟨Url.Host.visible_parse hhost, Url.Path.head?_parse _, Url.Path.visible_parse _, ?_⟩
  intro query hquery
  change (match _ with
    | _ :: query => some (Url.percentEncode Url.isEscapedInQuery query)
    | [] => none) = some query at hquery
  split at hquery
  · obtain rfl := Option.some.inj hquery
    exact Url.visible_percentEncode (fun _ => Url.visible_of_not_isEscapedInQuery) _
  · exact absurd hquery (by simp)

theorem sound_of_ofAddress {address : Url.WebAddress} {target : Target}
    (hhost : Visible address.host.text) (hslash : address.path.head? = some '/')
    (hpath : Visible address.path) (hquery : ∀ query, address.query = some query → Visible query)
    (h : ofAddress address = .ok target) : target.Sound := by
  simp only [ofAddress] at h
  split at h
  · exact absurd h (by simp)
  · next hnonempty =>
    obtain rfl := Except.ok.inj h
    refine ⟨?_, ?_, ?_, ?_⟩
    · intro hempty
      have htext : address.host.text = [] := by simpa using congrArg String.toList hempty
      simp [htext] at hnonempty
    · obtain ⟨rest, hrest⟩ := List.head?_eq_some_iff.mp hslash
      simp [hrest]
    · simpa using hhost
    · cases hcase : address.query with
      | none => simpa using hpath
      | some query =>
        rw [String.toList_ofList]
        exact visible_append.mpr ⟨hpath, visible_cons.mpr ⟨by decide, hquery query hcase⟩⟩

theorem exists_parseWeb_of_parse {source : List Char} {address : Url.WebAddress}
    (h : Url.parse source = .ok (.http address)) : ∃ rest, Url.parseWeb rest = .ok address := by
  unfold Url.parse at h
  split at h
  · exact absurd h (by simp)
  · next scheme rest _ =>
    split at h
    · cases hfile : Url.checkFile rest <;> simp [hfile, Except.map] at h
    · cases hplain : Url.checkPlain rest <;> simp [hplain, Except.map] at h
    · cases hweb : Url.parseWeb rest with
      | error fault => simp [hweb, Except.map] at h
      | ok found =>
        rw [hweb, Except.map] at h
        split at h
        · obtain rfl := Url.Reference.http.inj (Except.ok.inj h)
          exact ⟨rest, hweb⟩
        · exact absurd h (by simp)

theorem sound_of_parse {source : String} {target : Target} (h : parse source = .ok target) :
    target.Sound := by
  simp only [parse, parseChars] at h
  split at h
  · exact absurd h (by simp)
  split at h
  · exact absurd h (by simp)
  · exact absurd h (by simp)
  · next address haddress =>
    obtain ⟨rest, hweb⟩ := exists_parseWeb_of_parse haddress
    obtain ⟨hhost, hslash, hpath, hquery⟩ := visible_parseWeb hweb
    exact sound_of_ofAddress hhost hslash hpath hquery h

end Target

namespace Request

def lineEnd : List Char :=
  ['\r', '\n']

/-- The lines between the line ends of a text. What follows the last one is a line, too. -/
def splitLines : List Char → List (List Char)
  | [] => [[]]
  | '\r' :: '\n' :: rest => [] :: splitLines rest
  | c :: rest =>
    match splitLines rest with
    | [] => [[c]]
    | line :: lines => (c :: line) :: lines

/-- The number of places at which a pattern stands in a text. -/
def occurrences (pattern text : List Char) : Nat :=
  text.tails.countP pattern.isPrefixOf

/-- The lines of a request, in front of the empty one that ends it. -/
def lines (target : Target) (time : Option LocalTime) : List (List Char) :=
  [("GET " ++ path target time ++ " HTTP/1.1").toList, ("Host: " ++ target.host).toList,
    ("User-Agent: " ++ userAgent).toList, ("Referer: " ++ referer).toList, []]

theorem toList_text (target : Target) (time : Option LocalTime) :
    (text target time).toList = (lines target time).flatMap (· ++ lineEnd) := by
  simp [text, lines, lineEnd, String.toList_append]

/-! ## Texts made of lines -/

section Lines

variable {line rest : List Char}

theorem splitLines_append (hline : '\r' ∉ line) :
    splitLines (line ++ (lineEnd ++ rest)) = line :: splitLines rest := by
  induction line with
  | nil => rfl
  | cons c line ih =>
    have hc : c ≠ '\r' := fun h => hline (h ▸ List.mem_cons_self)
    have hline : '\r' ∉ line := fun h => hline (List.mem_cons_of_mem _ h)
    rw [List.cons_append, splitLines]
    · rw [ih hline]
    · rintro - rfl
      exact absurd rfl hc

theorem occurrences_append (hline : '\r' ∉ line) :
    occurrences lineEnd (line ++ (lineEnd ++ rest)) = occurrences lineEnd rest + 1 := by
  induction line with
  | nil => simp [occurrences, lineEnd]
  | cons c line ih =>
    have hc : c ≠ '\r' := fun h => hline (h ▸ List.mem_cons_self)
    have hline : '\r' ∉ line := fun h => hline (List.mem_cons_of_mem _ h)
    have hother : lineEnd.isPrefixOf (c :: (line ++ (lineEnd ++ rest))) = false := by
      simp [lineEnd, List.isPrefixOf, hc.symm]
    rw [← ih hline, List.cons_append]
    simp [occurrences, hother]

variable {lines : List (List Char)}

theorem splitLines_flatMap (hlines : ∀ line ∈ lines, '\r' ∉ line) :
    splitLines (lines.flatMap (· ++ lineEnd)) = lines ++ [[]] := by
  induction lines with
  | nil => rfl
  | cons line lines ih =>
    obtain ⟨hline, hlines⟩ := List.forall_mem_cons.mp hlines
    rw [List.flatMap_cons, List.append_assoc, splitLines_append hline, ih hlines,
      List.cons_append]

theorem occurrences_flatMap (hlines : ∀ line ∈ lines, '\r' ∉ line) :
    occurrences lineEnd (lines.flatMap (· ++ lineEnd)) = lines.length := by
  induction lines with
  | nil => rfl
  | cons line lines ih =>
    obtain ⟨hline, hlines⟩ := List.forall_mem_cons.mp hlines
    rw [List.flatMap_cons, List.append_assoc, occurrences_append hline, ih hlines,
      List.length_cons]

theorem count_flatMap {c : Char} (hc : lineEnd.count c = 1) (hlines : ∀ line ∈ lines, c ∉ line) :
    (lines.flatMap (· ++ lineEnd)).count c = lines.length := by
  induction lines with
  | nil => rfl
  | cons line lines ih =>
    obtain ⟨hline, hlines⟩ := List.forall_mem_cons.mp hlines
    rw [List.flatMap_cons, List.count_append, List.count_append,
      List.count_eq_zero.mpr hline, hc, ih hlines, List.length_cons]
    omega

end Lines

/-! ## Requests -/

theorem visible_stamp (time : LocalTime) : Visible time.stamp := by
  refine Visible.joinWith (by decide) fun field hfield => ?_
  simp only [LocalTime.stampFields, List.mem_cons, List.not_mem_nil, or_false] at hfield
  rcases hfield with rfl | rfl | rfl | rfl | rfl | rfl | rfl <;> exact visible_padded _ _

variable {target : Target}

theorem visible_path (htarget : target.Sound) (time : Option LocalTime) :
    Visible (path target time).toList := by
  cases time with
  | none => exact htarget.visible_path
  | some time =>
    have hmark : Visible [if target.path.toList.contains '?' then '&' else '?'] := by
      split <;> decide
    have hstamped : Visible ("timestamp=".toList ++ time.stamp) :=
      visible_append.mpr ⟨by decide, visible_stamp time⟩
    rw [path, String.toList_ofList]
    exact visible_append.mpr
      ⟨htarget.visible_path, visible_append.mpr ⟨hmark, hstamped⟩⟩

theorem not_mem_of_visible {line : List Char} (h : Visible line) {c : Char} (hc : c.toNat ≤ 0x20) :
    c ∉ line := by
  intro hmem
  have hlow := (h c hmem).1
  omega

theorem not_mem_lines (htarget : target.Sound) (time : Option LocalTime) {c : Char}
    (hc : c.toNat < 0x20) : ∀ line ∈ lines target time, c ∉ line := by
  have hpath : c ∉ (path target time).toList :=
    not_mem_of_visible (visible_path htarget time) (Nat.le_of_lt hc)
  have hhost : c ∉ target.host.toList :=
    not_mem_of_visible htarget.visible_host (Nat.le_of_lt hc)
  have hfixed (text : List Char) (htext : text.all fun d => 0x20 ≤ d.toNat) : c ∉ text := by
    intro hmem
    have hprinted := of_decide_eq_true (List.all_eq_true.mp htext c hmem)
    omega
  intro line hline
  simp only [lines, List.mem_cons, List.not_mem_nil, or_false] at hline
  rcases hline with rfl | rfl | rfl | rfl | rfl
  · simp only [String.toList_append, List.mem_append, not_or]
    exact ⟨⟨hfixed _ (by decide), hpath⟩, hfixed _ (by decide)⟩
  · rw [String.toList_append, List.mem_append, not_or]
    exact ⟨hfixed _ (by decide), hhost⟩
  · exact hfixed _ (by decide)
  · exact hfixed _ (by decide)
  · exact List.not_mem_nil

theorem count_blanks_first (htarget : target.Sound) (time : Option LocalTime) :
    ((text target time).toList.takeWhile (· ≠ '\r')).count ' ' = 2 := by
  have hfirst : '\r' ∉ ("GET " ++ path target time ++ " HTTP/1.1").toList :=
    not_mem_lines htarget time (by decide) _ List.mem_cons_self
  have hpath : (path target time).toList.count ' ' = 0 :=
    List.count_eq_zero.mpr (not_mem_of_visible (visible_path htarget time) (by decide))
  have hend (rest : List Char) :
      (("GET " ++ path target time ++ " HTTP/1.1").toList ++ lineEnd ++ rest).takeWhile (· ≠ '\r') =
        ("GET " ++ path target time ++ " HTTP/1.1").toList := by
    rw [List.append_assoc, List.takeWhile_append_of_pos]
    · simp [lineEnd]
    · intro c hc
      exact decide_eq_true fun h => hfirst (h ▸ hc)
  rw [toList_text, lines, List.flatMap_cons, hend]
  simp only [String.toList_append, List.count_append, hpath]
  decide

/-- The request of an accepted URL. -/
theorem text_lines_of_parse {source : String} (hparse : Target.parse source = .ok target) :
    target.Sound ∧ ∀ time : Option LocalTime,
      occurrences lineEnd (text target time).toList = 5 ∧
      (text target time).toList.count '\r' = 5 ∧ (text target time).toList.count '\n' = 5 ∧
      lineEnd ++ lineEnd <:+ (text target time).toList ∧
      ((text target time).toList.takeWhile (· ≠ '\r')).count ' ' = 2 ∧
      splitLines (text target time).toList = lines target time ++ [[]] := by
  have htarget : target.Sound := Target.sound_of_parse hparse
  refine ⟨htarget, fun time => ?_⟩
  have hreturn : ∀ line ∈ lines target time, '\r' ∉ line :=
    not_mem_lines htarget time (by decide)
  have hfeed : ∀ line ∈ lines target time, '\n' ∉ line :=
    not_mem_lines htarget time (by decide)
  refine ⟨?_, ?_, ?_, ?_, count_blanks_first htarget time, ?_⟩
  · rw [toList_text, occurrences_flatMap hreturn]
    rfl
  · rw [toList_text, count_flatMap (by decide) hreturn]
    rfl
  · rw [toList_text, count_flatMap (by decide) hfeed]
    rfl
  · simp only [toList_text, lines, List.flatMap_cons, List.flatMap_nil, List.nil_append,
      List.append_nil]
    simp only [← List.append_assoc]
    exact ⟨_, (List.append_assoc _ _ _).symm⟩
  · rw [toList_text, splitLines_flatMap hreturn]

/-- Line ends in a URL fall away, and blanks are encoded. -/
theorem text_lines_of_hostile_url :
    ∃ target : Target,
      Target.parse "http://[2001:DB8:0::1]/a b\r\nX-Evil: 1?q=\"z\" #" = .ok target ∧
      target = ⟨"2001:db8::1", 80, "/a%20bX-Evil:%201?q=%22z%22%20"⟩ ∧
      splitLines (text target none).toList = lines target none ++ [[]] := by
  have hparse : Target.parse "http://[2001:DB8:0::1]/a b\r\nX-Evil: 1?q=\"z\" #" =
      .ok ⟨"2001:db8::1", 80, "/a%20bX-Evil:%201?q=%22z%22%20"⟩ := by decide +kernel
  exact ⟨_, hparse, rfl, ((text_lines_of_parse hparse).2 none).2.2.2.2.2⟩

end Request

end Throughput
