import Throughput.Json.Numeral
import Throughput.Json.Quoted

/-!
# Tokens

A text as a sequence of tokens. A fault ends the sequence. Numbers and quoted texts can be faulty
for whoever needs them and still be skipped by whoever does not, so they carry both answers.
-/

namespace Throughput.Json

inductive Bracket where
  | array
  | object
  deriving DecidableEq, Repr

/-- A number or a text: what its reader gets, and whether it can be skipped. -/
structure Leaf (α : Type) where
  value : Outcome α
  skipped : Outcome Unit

inductive Token where
  | opening (bracket : Bracket)
  | closing (bracket : Bracket)
  | comma
  | colon
  | null
  | boolean (b : Bool)
  | number (leaf : Leaf Number)
  | quoted (leaf : Leaf (List Char))
  | broken (fault : Fault)

namespace Token

def isBlank (c : Char) : Bool :=
  c = ' ' || c = '\n' || c = '\t' || c = '\r'

def punctuation? (c : Char) : Option Token :=
  match c with
  | '[' => some (.opening .array)
  | ']' => some (.closing .array)
  | '\x7b' => some (.opening .object)
  | '\x7d' => some (.closing .object)
  | ',' => some .comma
  | ':' => some .colon
  | _ => none

def word? (c : Char) : Option (List Char × Token) :=
  match c with
  | 'n' => some ("ull".toList, .null)
  | 't' => some ("rue".toList, .boolean true)
  | 'f' => some ("alse".toList, .boolean false)
  | _ => none

def expect : (letters : List Char) → (text : List Char) → Outcome (List Char)
  | [], text => .ok text
  | _ :: _, [] => .error .truncated
  | letter :: letters, c :: rest =>
    if letter = c then expect letters rest else .error .malformed

theorem length_le_of_expect {letters text rest : List Char} (h : expect letters text = .ok rest) :
    rest.length ≤ text.length := by
  fun_induction expect letters text with
  | case1 => simp_all
  | case2 => simp at h
  | case3 => grind
  | case4 => simp at h

/-- A token and the text behind it, or the token that ends the sequence. -/
abbrev Step := Token × Option (List Char)

def ofQuoted (text : List Char) : Step :=
  match Quoted.scan text with
  | (pieces, .ok rest) => (.quoted ⟨Quoted.join (.ok ()) pieces, .ok ()⟩, some rest)
  | (pieces, .error fault) => (.quoted ⟨Quoted.join (.error fault) pieces, .error fault⟩, none)

/-- Whoever skips a number does not care how its text goes on after it ends too early. -/
def ofNumeral (negative : Bool) (text : List Char) : Step :=
  match Numeral.scanUnsigned negative text with
  | .ok (numeral, rest) => (.number ⟨numeral.number, .ok ()⟩, some rest)
  | .error flaw => (.number ⟨.error flaw.fault, .error .malformed⟩, none)

def ofWord (letters : List Char) (token : Token) (text : List Char) : Step :=
  match expect letters text with
  | .ok rest => (token, some rest)
  | .error fault => (.broken fault, none)

def next (c : Char) (rest : List Char) : Step :=
  match punctuation? c, word? c with
  | some token, _ => (token, some rest)
  | none, some (letters, token) => ofWord letters token rest
  | none, none =>
    if c = '"' then ofQuoted rest
    else if c = '-' then ofNumeral true rest
    else if Numeral.isDigit c then ofNumeral false (c :: rest)
    else (.broken .malformed, none)

theorem length_lt_of_ofNumeral {negative : Bool} {text rest : List Char}
    (h : (ofNumeral negative text).2 = some rest) : rest.length < text.length := by
  unfold ofNumeral at h
  split at h
  · rename_i scanned
    simp only [Option.some.injEq] at h
    rw [← h]
    exact Numeral.length_lt_of_scanUnsigned scanned
  · simp at h

theorem length_le_of_next {c : Char} {text rest : List Char} (h : (next c text).2 = some rest) :
    rest.length ≤ text.length := by
  unfold next at h
  split at h
  · simp_all
  · unfold ofWord at h
    split at h
    · rename_i expected
      simp only [Option.some.injEq] at h
      rw [← h]
      exact length_le_of_expect expected
    · simp at h
  · split at h
    · unfold ofQuoted at h
      split at h
      · rename_i scanned
        simp only [Option.some.injEq] at h
        rw [← h]
        exact Nat.le_of_lt (Quoted.length_lt_of_scan (by rw [scanned]))
      · simp at h
    · split at h
      · exact Nat.le_of_lt (length_lt_of_ofNumeral h)
      · split at h
        · exact Nat.le_of_lt_succ (length_lt_of_ofNumeral h)
        · simp at h

def ofText : List Char → List Token
  | [] => []
  | c :: rest =>
    if isBlank c then
      ofText rest
    else
      match _step : next c rest with
      | (token, some after) => token :: ofText after
      | (token, none) => [token]
  termination_by text => text.length
  decreasing_by
    · simp
    · have := length_le_of_next (show (next c rest).2 = some after by rw [_step])
      simp only [List.length_cons]
      omega

end Token

end Throughput.Json
