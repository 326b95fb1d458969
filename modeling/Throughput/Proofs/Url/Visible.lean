import Throughput.Proofs.Text.Visible
import Throughput.Url.Basic

/-!
# The characters of a web address

Host, path and query of a web address are visible ASCII, whatever the URL was: paths and queries
because the rest is percent-encoded, domain names because the rest is mapped away, encoded or
refused, addresses because they are written from their numbers.
-/

namespace Throughput.Url

open Address Text

theorem visible_hexPair (byte : UInt8) : Visible (hexPair byte) := by
  have hdigit : ∀ digit < 16, Visible [(Nat.digitChar digit).toUpper] := by decide
  have hbyte : byte.toNat < 256 := byte.toNat_lt
  exact visible_append.mpr
    ⟨hdigit (byte.toNat / 16) (by omega), hdigit (byte.toNat % 16) (by omega)⟩

theorem visible_percentEncode {escaped : Char → Bool}
    (hescaped : ∀ c, escaped c = false → Visible [c]) (text : List Char) :
    Visible (percentEncode escaped text) := by
  refine Visible.flatMap fun c _ => ?_
  split
  · refine Visible.flatMap fun byte _ => ?_
    exact visible_cons.mpr ⟨by decide, visible_hexPair byte⟩
  · next hplain => exact hescaped c (by simpa using hplain)

theorem visible_of_not_isControl {c : Char} (hcontrol : isControl c = false) (hblank : c ≠ ' ') :
    Visible [c] := by
  have hcode : c.toNat ≠ 0x20 := fun h => hblank (Char.toNat_inj.mp h)
  simp only [isControl, Bool.or_eq_false_iff, decide_eq_false_iff_not] at hcontrol
  simp only [visible_cons, visible_nil, and_true]
  omega

theorem visible_of_not_isEscapedInPath {c : Char} (h : isEscapedInPath c = false) :
    Visible [c] := by
  simp only [isEscapedInPath, Bool.or_eq_false_iff] at h
  refine visible_of_not_isControl h.1 ?_
  rintro rfl
  simp at h

theorem visible_of_not_isEscapedInQuery {c : Char} (h : isEscapedInQuery c = false) :
    Visible [c] := by
  simp only [isEscapedInQuery, Bool.or_eq_false_iff] at h
  refine visible_of_not_isControl h.1 ?_
  rintro rfl
  simp at h

/-! ## Paths -/

namespace Path

theorem split_ne_nil (source : List Char) : split source ≠ [] := by
  induction source with
  | nil => simp [split]
  | cons c rest ih =>
    unfold split
    split
    · simp
    · split <;> simp

theorem mem_up {segment : List Char} {done : List (List Char)} (h : segment ∈ up done) :
    segment ∈ done := by
  unfold up at h
  split at h
  · exact h
  · split at h
    · exact h
    · exact List.mem_cons_of_mem _ h

/-- Resolving brings no segment in but the empty one. -/
theorem mem_resolve {segment : List Char} {done segments : List (List Char)}
    (h : segment ∈ resolve done segments) :
    segment = [] ∨ segment ∈ done ∨ segment ∈ segments := by
  fun_induction resolve done segments with
  | case1 done => exact .inr (.inl (List.mem_reverse.mp h))
  | case2 done last final =>
    rw [List.mem_reverse] at h
    simp only [final] at h
    split at h
    · rcases List.mem_cons.mp h with hempty | hup
      · exact .inl hempty
      · exact .inr (.inl (mem_up hup))
    · split at h
      · exact (List.mem_cons.mp h).imp id .inl
      · rcases List.mem_cons.mp h with hlast | hdone
        · exact .inr (.inr (List.mem_singleton.mpr hlast))
        · exact .inr (.inl hdone)
  | case3 done first rest hmore hup ih =>
    rcases ih h with hempty | hdone | hrest
    · exact .inl hempty
    · exact .inr (.inl (mem_up hdone))
    · exact .inr (.inr (List.mem_cons_of_mem _ hrest))
  | case4 done first rest hmore hup hhere ih =>
    exact (ih h).imp id (Or.imp id (List.mem_cons_of_mem _))
  | case5 done first rest hmore hup hhere ih =>
    rcases ih h with hempty | hdone | hrest
    · exact .inl hempty
    · rcases List.mem_cons.mp hdone with hfirst | hdone
      · exact .inr (.inr (hfirst ▸ List.mem_cons_self))
      · exact .inr (.inl hdone)
    · exact .inr (.inr (List.mem_cons_of_mem _ hrest))

theorem resolve_ne_nil {segments : List (List Char)} (h : segments ≠ [])
    (done : List (List Char)) : resolve done segments ≠ [] := by
  fun_induction resolve done segments with
  | case1 => exact absurd rfl h
  | case2 done last final =>
    simp only [final]
    split
    · simp
    · split <;> simp
  | case3 done first rest hmore hup ih => exact ih hmore
  | case4 done first rest hmore hup hhere ih => exact ih hmore
  | case5 done first rest hmore hup hhere ih => exact ih hmore

theorem head?_text {segments : List (List Char)} (h : segments ≠ []) :
    (text segments).head? = some '/' := by
  obtain ⟨segment, rest, rfl⟩ := List.exists_cons_of_ne_nil h
  simp [text]

theorem head?_parse (source : List Char) : (parse source).head? = some '/' := by
  refine head?_text (resolve_ne_nil ?_ [])
  simp [split_ne_nil]

theorem visible_parse (source : List Char) : Visible (parse source) := by
  refine Visible.flatMap fun segment hsegment => ?_
  refine visible_cons.mpr ⟨by decide, ?_⟩
  rcases mem_resolve hsegment with rfl | hdone | hsegments
  · exact visible_nil
  · exact absurd hdone (List.not_mem_nil)
  · obtain ⟨plain, -, rfl⟩ := List.mem_map.mp hsegments
    exact visible_percentEncode (fun _ => visible_of_not_isEscapedInPath) plain

end Path

/-! ## Domain names -/

namespace Punycode

theorem visible_digitChar {digit : Nat} (h : digit < base) : Visible [digitChar digit] := by
  revert digit
  decide

theorem visible_encodeDelta (bias k delta : Nat) : Visible (encodeDelta bias k delta) := by
  fun_induction encodeDelta bias k delta with
  | case1 k delta t hlast =>
    have hthreshold : t ≤ 26 := threshold_le k bias
    exact visible_digitChar (by simp only [base]; omega)
  | case2 k delta t hmore ih =>
    have hthreshold : t ≤ 26 := threshold_le k bias
    have hrest : (delta - t) % (base - t) < base - t :=
      Nat.mod_lt _ (by simp only [base]; omega)
    exact visible_append.mpr ⟨visible_digitChar (by omega), ih⟩

theorem visible_pass {code basicCount : Nat} {encoder : Encoder} (h : Visible encoder.output)
    (c : Char) : Visible (Encoder.pass code basicCount encoder c).output := by
  unfold Encoder.pass
  split
  · exact h
  · split
    · exact visible_append.mpr ⟨h, visible_encodeDelta _ _ _⟩
    · exact h

theorem visible_foldl_pass {code basicCount : Nat} (label : List Char) {encoder : Encoder}
    (h : Visible encoder.output) :
    Visible (label.foldl (Encoder.pass code basicCount) encoder).output := by
  induction label generalizing encoder with
  | nil => exact h
  | cons c rest ih => exact ih (visible_pass h c)

theorem visible_encodeCodes {label : List Char} {basicCount : Nat} (codes : List Nat) {next : Nat}
    {encoder : Encoder} (h : Visible encoder.output) :
    Visible (encodeCodes label basicCount next encoder codes).output := by
  induction codes generalizing next encoder with
  | nil => exact h
  | cons code codes ih => exact ih (visible_foldl_pass label h)

theorem visible_encode {label : List Char} (h : Visible (label.filter isBasic)) :
    Visible (encode label) := by
  refine visible_encodeCodes _ ?_
  change Visible (if (label.filter isBasic).isEmpty then [] else label.filter isBasic ++ ['-'])
  split
  · exact visible_nil
  · exact visible_append.mpr ⟨h, by decide⟩

end Punycode

namespace Idna

theorem visible_of_not_isForbidden {c : Char} (hascii : isAscii c) (h : isForbidden c = false) :
    Visible [c] := by
  simp only [isForbidden, Bool.or_eq_false_iff, decide_eq_false_iff_not] at h
  simp only [isAscii, decide_eq_true_eq] at hascii
  simp only [visible_cons, visible_nil, and_true]
  omega

theorem exists_mem_of_mapM_eq_some {α β : Type} {f : α → Option β} {items : List α}
    {images : List β} (h : items.mapM f = some images) {image : β} (himage : image ∈ images) :
    ∃ item ∈ items, f item = some image := by
  induction items generalizing images with
  | nil =>
    obtain rfl := Option.some.inj h
    exact absurd himage List.not_mem_nil
  | cons item rest ih =>
    rw [List.mapM_cons] at h
    obtain ⟨first, hfirst, h⟩ := Option.bind_eq_some_iff.mp h
    obtain ⟨others, hothers, h⟩ := Option.bind_eq_some_iff.mp h
    obtain rfl := Option.some.inj h
    rcases List.mem_cons.mp himage with rfl | himage
    · exact ⟨item, List.mem_cons_self, hfirst⟩
    · obtain ⟨source, hsource, hmapped⟩ := ih hothers himage
      exact ⟨source, List.mem_cons_of_mem _ hsource, hmapped⟩

theorem visible_encodeLabel? {label encoded : List Char} (hlabel : isWellFormed label)
    (hencoded : encodeLabel? label = some encoded) : Visible encoded := by
  have hallowed : ∀ c ∈ label, isForbidden c = false := by
    simp only [isWellFormed, Bool.and_eq_true, List.all_eq_true] at hlabel
    exact fun c hc => by simpa using hlabel.2 c hc
  unfold encodeLabel? at hencoded
  split at hencoded
  · next hascii =>
    obtain rfl := Option.some.inj hencoded
    intro c hc
    exact visible_of_not_isForbidden (List.all_eq_true.mp hascii c hc) (hallowed c hc) c
      (List.mem_singleton_self c)
  · split at hencoded
    · exact absurd hencoded (by simp)
    · obtain rfl := Option.some.inj hencoded
      refine visible_append.mpr ⟨by decide, Punycode.visible_encode fun c hc => ?_⟩
      obtain ⟨hmem, hbasic⟩ := List.mem_filter.mp hc
      exact visible_of_not_isForbidden hbasic (hallowed c hmem) c (List.mem_singleton_self c)

theorem visible_toAscii? {domain name : List Char} (h : toAscii? domain = some name) :
    Visible name := by
  unfold toAscii? at h
  split at h
  · exact absurd h (by simp)
  · split at h
    · exact absurd h (by simp)
    · next labels _ =>
      split at h
      · next hchecked =>
        obtain ⟨parts, hparts, rfl⟩ := Option.map_eq_some_iff.mp h
        have hformed := (Bool.and_eq_true_iff.mp hchecked).1
        refine Visible.joinWith (by decide) fun part hpart => ?_
        obtain ⟨label, hlabel, hencoded⟩ := exists_mem_of_mapM_eq_some hparts hpart
        exact visible_encodeLabel? (List.all_eq_true.mp hformed label hlabel) hencoded
      · exact absurd h (by simp)

end Idna

/-! ## Hosts -/

theorem visible_ipv4 (address : Ipv4) : Visible address.text := by
  refine Visible.joinWith (by decide) fun field hfield => ?_
  obtain ⟨byte, -, rfl⟩ := List.mem_map.mp hfield
  exact visible_decimal byte.toNat

theorem visible_groupsText (groups : List UInt16) : Visible (Ipv6.groupsText groups) := by
  refine Visible.joinWith (by decide) fun field hfield => ?_
  obtain ⟨group, -, rfl⟩ := List.mem_map.mp hfield
  exact visible_hex group.toNat

theorem visible_ipv6 (address : Ipv6) : Visible address.text := by
  unfold Ipv6.text
  split
  split
  · exact visible_groupsText _
  · exact visible_append.mpr
      ⟨visible_append.mpr ⟨visible_groupsText _, by decide⟩, visible_groupsText _⟩

theorem Host.visible_parse {source : List Char} {host : Host} (h : parse source = .ok host) :
    Visible host.text := by
  unfold parse at h
  split at h
  · unfold parseIpv6 at h
    split at h
    · obtain rfl := Except.ok.inj h
      exact visible_ipv6 _
    · exact absurd h (by simp)
  · split at h
    · exact absurd h (by simp)
    · next name hname =>
      obtain ⟨decoded, -, hascii⟩ := Option.bind_eq_some_iff.mp hname
      split at h
      · exact absurd h (by simp)
      · split at h
        · split at h
          · obtain rfl := Except.ok.inj h
            exact visible_ipv4 _
          · exact absurd h (by simp)
        · obtain rfl := Except.ok.inj h
          exact Idna.visible_toAscii? hascii

end Throughput.Url
