import Throughput.Text.Digits
import Throughput.Toml.Line

/-!
# Quoted texts of TOML

Four forms: in double quotes with escapes or in single quotes without, and either on one line or,
between three quotes, over several. A line end in a text is a line feed, however it is written.
-/

namespace Throughput.Toml

/-- What may stand in a text besides its quotes and escapes. -/
def isPlain (c : Char) : Bool :=
  isCommentChar c

def codePoint? (digits : List Char) : Option Char :=
  match Text.number? 16 digits with
  | some n => if n.isValidChar then some (Char.ofNat n) else none
  | none => none

def letterEscape? (c : Char) : Option Char :=
  match c with
  | 'b' => some '\x08'
  | 't' => some '\t'
  | 'n' => some '\n'
  | 'f' => some '\x0c'
  | 'r' => some '\r'
  | '"' => some '"'
  | '\\' => some '\\'
  | _ => none

/-- Reads behind a backslash. -/
def escape? (text : List Char) : Option (Char × List Char) :=
  match text with
  | 'u' :: rest => (codePoint? (rest.take 4)).bind fun c =>
      if 4 ≤ rest.length then some (c, rest.drop 4) else none
  | 'U' :: rest => (codePoint? (rest.take 8)).bind fun c =>
      if 8 ≤ rest.length then some (c, rest.drop 8) else none
  | c :: rest => (letterEscape? c).map fun plain => (plain, rest)
  | [] => none

theorem length_lt_of_escape? {text rest : List Char} {c : Char}
    (h : escape? text = some (c, rest)) :
    rest.length < text.length := by
  unfold escape? at h
  split at h
  · simp only [Option.bind_eq_some_iff] at h
    obtain ⟨_, _, h⟩ := h
    split at h <;> simp_all
    grind
  · simp only [Option.bind_eq_some_iff] at h
    obtain ⟨_, _, h⟩ := h
    split at h <;> simp_all
    grind
  · simp only [Option.map_eq_some_iff] at h
    grind
  · simp at h

/-- The text behind a line that was broken by a backslash: blanks and line ends do not count. -/
def continuation? (text : List Char) : Option (List Char) :=
  match lineEnd? (skipBlank text) with
  | some rest => some (skipFolded rest)
  | none => none
where
  /-- A carriage return that belongs to no line end stays. -/
  skipFolded : List Char → List Char
    | '\r' :: '\n' :: rest => skipFolded rest
    | c :: rest => if isBlank c || c = '\n' then skipFolded rest else c :: rest
    | [] => []

def basic (text : List Char) : Option (List Char × List Char) :=
  match text with
  | [] => none
  | '"' :: rest => some ([], rest)
  | '\\' :: rest =>
    match _escape : escape? rest with
    | some (c, after) => (basic after).map fun (inner, left) => (c :: inner, left)
    | none => none
  | c :: rest =>
    if isPlain c then (basic rest).map fun (inner, left) => (c :: inner, left) else none
  termination_by text.length
  decreasing_by
    · have := length_lt_of_escape? _escape
      simp only [List.length_cons]
      omega
    · simp

def literal : List Char → Option (List Char × List Char)
  | [] => none
  | '\'' :: rest => some ([], rest)
  | c :: rest =>
    if isPlain c then (literal rest).map fun (inner, left) => (c :: inner, left) else none

/-- The number of quotes in front of a text. -/
def countQuotes (quote : Char) (text : List Char) : Nat :=
  (text.takeWhile (· = quote)).length

/-- The quotes that belong to a text which three quotes end. Up to two may stand before those. -/
def spareQuotes (count : Nat) : Nat :=
  min 2 (count - 3)

/-- The line end right behind the opening quotes does not count. -/
def skipFirstLineEnd (text : List Char) : List Char :=
  (lineEnd? text).getD text

/-- Reads a text over several lines, behind the opening quotes. One or two quotes may stand in it as
long as something follows them. -/
def manyLines (quote : Char) (escapes : Bool) (text : List Char) : Option (List Char × List Char) :=
  match text with
  | [] => none
  | c :: rest =>
    if c = quote then
      let count := countQuotes quote (c :: rest)
      if 3 ≤ count then
        let spare := spareQuotes count
        some (List.replicate spare quote, (c :: rest).drop (spare + 3))
      else
        (manyLines quote escapes rest).map fun (inner, left) => (c :: inner, left)
    else if c = '\\' ∧ escapes then
      match continuation? rest with
      | some after =>
        if after.length < rest.length then manyLines quote escapes after else none
      | none =>
        match _escape : escape? rest with
        | some (plain, after) =>
          (manyLines quote escapes after).map fun (inner, left) => (plain :: inner, left)
        | none => none
    else
      match _end : lineEnd? (c :: rest) with
      | some after =>
        (manyLines quote escapes after).map fun (inner, left) => ('\n' :: inner, left)
      | none =>
        if isPlain c then
          (manyLines quote escapes rest).map fun (inner, left) => (c :: inner, left)
        else
          none
  termination_by text.length
  decreasing_by
    all_goals simp only [List.length_cons]
    · omega
    · omega
    · have := length_lt_of_escape? _escape
      omega
    · exact length_lt_of_lineEnd? _end
    · omega

def quoted? (text : List Char) : Option (List Char × List Char) :=
  match text with
  | '"' :: '"' :: '"' :: rest => manyLines '"' true (skipFirstLineEnd rest)
  | '"' :: rest => basic rest
  | '\'' :: '\'' :: '\'' :: rest => manyLines '\'' false (skipFirstLineEnd rest)
  | '\'' :: rest => literal rest
  | _ => none

end Throughput.Toml
