import Throughput.Proofs.Request
import Throughput.Proofs.Text.Digits

/-!
# Timestamps of requests

A timestamp is a parameter behind everything else that the target asks for. It goes into the request
line right in front of the protocol version, and the rest of the request stays as it is. Since each
of its fields can be read back, it tells two times apart as soon as one of the numbers that it shows
differs.
-/

namespace Throughput

open Text

namespace LocalTime

variable {time first second : LocalTime}

/-- Every field is in its range. In a leap second the nanoseconds count on beyond the second. -/
structure Valid (time : LocalTime) : Prop where
  month : 1 ≤ time.month ∧ time.month ≤ 12
  day : 1 ≤ time.day ∧ time.day ≤ 31
  hour : time.hour < 24
  minute : time.minute < 60
  second : time.second < 60
  nanosecond : time.nanosecond < 2 * nanosPerSecond

/-- The numbers that a timestamp shows. -/
def shown (time : LocalTime) : List Nat :=
  [(time.year % 100).toNat, time.month, time.day, time.hour, time.minute, time.shownSecond,
    time.shownMilli]

def fieldWidths : List Nat :=
  [2, 2, 2, 2, 2, 2, 3]

theorem stampFields_eq (time : LocalTime) :
    time.stampFields = List.zipWith padded fieldWidths time.shown := rfl

theorem shownSecond_of_lt (h : time.nanosecond < nanosPerSecond) :
    time.shownSecond = time.second := by
  rw [shownSecond, Nat.div_eq_of_lt h, Nat.add_zero]

theorem Valid.shownSecond_of_le (h : time.Valid) (hleap : nanosPerSecond ≤ time.nanosecond) :
    time.shownSecond = time.second + 1 := by
  have hcount : time.nanosecond / nanosPerSecond = 1 :=
    Nat.div_eq_of_lt_le (by omega) h.nanosecond
  rw [shownSecond, hcount]

theorem Valid.shownSecond_lt (h : time.Valid) : time.shownSecond < 10 ^ 2 := by
  have hsecond := h.second
  rcases Nat.lt_or_ge time.nanosecond nanosPerSecond with hplain | hleap
  · rw [shownSecond_of_lt hplain]
    omega
  · rw [h.shownSecond_of_le hleap]
    omega

theorem shownMilli_lt (time : LocalTime) : time.shownMilli < 10 ^ 3 := by
  have hrest : time.nanosecond % nanosPerSecond < 1000000000 := Nat.mod_lt _ (by decide)
  rw [shownMilli, nanosPerMilli]
  omega

theorem Valid.length_stampFields (h : time.Valid) :
    time.stampFields.map List.length = fieldWidths := by
  have hyear : (time.year % 100).toNat < 10 ^ 2 := by omega
  have hmonth : time.month < 10 ^ 2 := Nat.lt_of_le_of_lt h.month.2 (by decide)
  have hday : time.day < 10 ^ 2 := Nat.lt_of_le_of_lt h.day.2 (by decide)
  have hhour : time.hour < 10 ^ 2 := Nat.lt_trans h.hour (by decide)
  have hminute : time.minute < 10 ^ 2 := Nat.lt_trans h.minute (by decide)
  rw [stampFields]
  simp only [List.map_cons, List.map_nil, length_padded (Nat.succ_pos 1) hyear,
    length_padded (Nat.succ_pos 1) hmonth, length_padded (Nat.succ_pos 1) hday,
    length_padded (Nat.succ_pos 1) hhour, length_padded (Nat.succ_pos 1) hminute,
    length_padded (Nat.succ_pos 1) h.shownSecond_lt, length_padded (Nat.succ_pos 2) time.shownMilli_lt]
  rfl

theorem isDigit_of_mem_stampFields {field : List Char} (hfield : field ∈ time.stampFields)
    {c : Char} (hc : c ∈ field) : c.isDigit := by
  simp only [stampFields, List.mem_cons, List.not_mem_nil, or_false] at hfield
  rcases hfield with rfl | rfl | rfl | rfl | rfl | rfl | rfl <;> exact isDigit_of_mem_padded hc

theorem ofDigits_stampFields (time : LocalTime) :
    time.stampFields.map (ofDigits 10) = time.shown := by
  simp only [stampFields, List.map_cons, List.map_nil, ofDigits_padded]
  rfl

theorem splitOn_stamp (time : LocalTime) : splitOn '_' time.stamp = time.stampFields := by
  refine splitOn_joinWith (List.cons_ne_nil _ _) fun field hfield hmark => ?_
  exact absurd (isDigit_of_mem_stampFields hfield hmark) (by decide)

theorem stamp_eq_iff : first.stamp = second.stamp ↔ first.shown = second.shown := by
  constructor
  · intro hstamp
    have hfields := congrArg (splitOn '_') hstamp
    rw [splitOn_stamp, splitOn_stamp] at hfields
    rw [← ofDigits_stampFields, ← ofDigits_stampFields, hfields]
  · intro hshown
    rw [stamp, stamp, stampFields_eq, stampFields_eq, hshown]

/-- Two times of which a timestamp shows the same. -/
structure ShownAlike (left right : LocalTime) : Prop where
  year : left.year % 100 = right.year % 100
  month : left.month = right.month
  day : left.day = right.day
  hour : left.hour = right.hour
  minute : left.minute = right.minute
  second : left.shownSecond = right.shownSecond
  milli : left.shownMilli = right.shownMilli

theorem shown_eq_iff : first.shown = second.shown ↔ first.ShownAlike second := by
  simp only [shown, List.cons.injEq, and_true]
  constructor
  · rintro ⟨hyear, hmonth, hday, hhour, hminute, hsecond, hmilli⟩
    exact ⟨by omega, hmonth, hday, hhour, hminute, hsecond, hmilli⟩
  · rintro ⟨hyear, hmonth, hday, hhour, hminute, hsecond, hmilli⟩
    exact ⟨congrArg Int.toNat hyear, hmonth, hday, hhour, hminute, hsecond, hmilli⟩

/-- A text of seven fields of digits, with zeros in front up to their widths, that shows a time. The
second is the one that is told on a clock, also in a leap second. -/
structure Shows (time : LocalTime) (stamp : List Char) (fields : List (List Char)) : Prop where
  stamp_eq : stamp = joinWith '_' fields
  length_stamp : stamp.length = 21
  length_fields : fields.map List.length = fieldWidths
  digits : ∀ field ∈ fields, ∀ c ∈ field, c.isDigit
  numbers : fields.map (ofDigits 10) = time.shown
  plain_second : time.nanosecond < nanosPerSecond → time.shownSecond = time.second
  leap_second : nanosPerSecond ≤ time.nanosecond → time.shownSecond = time.second + 1

theorem Valid.length_stamp (h : time.Valid) : time.stamp.length = 21 := by
  have hlengths := h.length_stampFields
  simp only [stampFields, fieldWidths, List.map_cons, List.map_nil, List.cons.injEq,
    and_true] at hlengths
  obtain ⟨hyear, hmonth, hday, hhour, hminute, hsecond, hmilli⟩ := hlengths
  simp only [stamp, stampFields, joinWith, List.length_append, List.length_cons, hyear, hmonth,
    hday, hhour, hminute, hsecond, hmilli]

theorem Valid.shows (h : time.Valid) : time.Shows time.stamp time.stampFields where
  stamp_eq := rfl
  length_stamp := h.length_stamp
  length_fields := h.length_stampFields
  digits := fun _ hfield _ hc => isDigit_of_mem_stampFields hfield hc
  numbers := time.ofDigits_stampFields
  plain_second := shownSecond_of_lt
  leap_second := h.shownSecond_of_le

end LocalTime

namespace Request

variable {target : Target} {time first second : LocalTime}

/-- The request line up to the end of what the target asks for. -/
def opening (target : Target) : List Char :=
  "GET ".toList ++ target.path.toList

/-- The lines behind the request line. -/
def headers (target : Target) : List Char :=
  (lines target none).tail.flatMap (· ++ lineEnd)

def parameter (mark : Char) (stamp : List Char) : List Char :=
  mark :: ("timestamp=".toList ++ stamp)

theorem toList_text_none (target : Target) :
    (text target none).toList =
      opening target ++ (" HTTP/1.1".toList ++ lineEnd ++ headers target) := by
  rw [toList_text, headers, lines, List.flatMap_cons, List.tail_cons]
  simp only [opening, path, String.toList_append, List.append_assoc]

theorem toList_text_some (target : Target) (time : LocalTime) :
    (text target (some time)).toList =
      opening target ++
        (parameter (if target.path.toList.contains '?' then '&' else '?') time.stamp ++
          (" HTTP/1.1".toList ++ lineEnd ++ headers target)) := by
  rw [toList_text, headers, lines, lines, List.flatMap_cons, List.tail_cons]
  simp only [opening, parameter, path, stampedPath, String.toList_append, String.toList_ofList,
    List.append_assoc]

theorem text_some_eq_iff :
    text target (some first) = text target (some second) ↔ first.stamp = second.stamp := by
  constructor
  · intro htext
    have hlists := congrArg String.toList htext
    rw [toList_text_some, toList_text_some] at hlists
    have hparameter := List.append_cancel_right (List.append_cancel_left hlists)
    exact List.append_cancel_left (List.cons.inj hparameter).2
  · intro hstamp
    rw [text, text, path, path, stampedPath, stampedPath, hstamp]

/-- How the request with a timestamp differs from the plain one. -/
structure Stamped (target : Target) (time : LocalTime) (mark : Char) (stamp : List Char) :
    Prop where
  mark_eq : mark = '&' ∧ '?' ∈ target.path.toList ∨ mark = '?' ∧ '?' ∉ target.path.toList
  shows : ∃ fields, time.Shows stamp fields
  plain : (text target none).toList =
    opening target ++ (" HTTP/1.1".toList ++ lineEnd ++ headers target)
  stamped : (text target (some time)).toList =
    opening target ++ (parameter mark stamp ++ (" HTTP/1.1".toList ++ lineEnd ++ headers target))
  restored : (text target none).toList =
    (text target (some time)).toList.take (opening target).length ++
      (text target (some time)).toList.drop ((opening target).length + 32)

theorem stamped_text (target : Target) (h : time.Valid) :
    Stamped target time (if target.path.toList.contains '?' then '&' else '?') time.stamp := by
  refine ⟨?_, ⟨_, h.shows⟩, toList_text_none target, toList_text_some target time, ?_⟩
  · by_cases hquery : '?' ∈ target.path.toList
    · exact .inl ⟨if_pos (List.contains_iff_mem.mpr hquery), hquery⟩
    · exact .inr ⟨if_neg fun hmark => hquery (List.contains_iff_mem.mp hmark), hquery⟩
  · have hlength (mark : Char) : (parameter mark time.stamp).length = 32 := by
      rw [parameter, List.length_cons, List.length_append, h.length_stamp]
      rfl
    rw [toList_text_some, toList_text_none, List.take_left, ← List.drop_drop, List.drop_left]
    rw [← hlength (if target.path.toList.contains '?' then '&' else '?'), List.drop_left]

/-- A timestamp adds one parameter to the request line and changes nothing else, so that the plain
request comes back when it is taken out. Two requests for one target are the same exactly if their
timestamps show the same. -/
theorem text_timestamp (target : Target) :
    (∀ time : LocalTime, time.Valid → ∃ mark stamp, Stamped target time mark stamp) ∧
    ∀ first second : LocalTime,
      text target (some first) = text target (some second) ↔ first.ShownAlike second := by
  constructor
  · intro time hvalid
    exact ⟨_, _, stamped_text target hvalid⟩
  · intro first second
    calc text target (some first) = text target (some second)
      _ ↔ first.stamp = second.stamp := text_some_eq_iff
      _ ↔ first.shown = second.shown := LocalTime.stamp_eq_iff
      _ ↔ first.ShownAlike second := LocalTime.shown_eq_iff

/-- A leap second before the common era, behind a query. -/
theorem text_timestamp_leap_second :
    let target : Target := ⟨"example.com", 80, "/file.bin?size=10"⟩
    let time : LocalTime := ⟨-1, 12, 31, 23, 59, 59, 1999999999⟩
    time.Valid ∧ (∃ mark stamp, Stamped target time mark stamp) ∧
      (lines target (some time)).head? =
        some "GET /file.bin?size=10&timestamp=99_12_31_23_59_60_999 HTTP/1.1".toList := by
  intro target time
  have hvalid : time.Valid :=
    ⟨by decide, by decide, by decide, by decide, by decide, by decide⟩
  exact ⟨hvalid, (text_timestamp target).1 time hvalid, by decide⟩

end Request

end Throughput
