/-!
# Lines of TOML

Blanks, line ends and comments. Every reader takes a text and gives what it has read together with
the text behind it.
-/

namespace Throughput.Toml

def isBlank (c : Char) : Bool :=
  c = ' ' || c = '\t'

def skipBlank (text : List Char) : List Char :=
  text.dropWhile isBlank

/-- Characters other than ASCII stand wherever a text is free. -/
def isForeign (c : Char) : Bool :=
  0x80 ≤ c.toNat

/-- What may stand in a comment: anything but control characters, of which the tab is allowed. -/
def isCommentChar (c : Char) : Bool :=
  c = '\t' || (0x20 ≤ c.toNat && c.toNat ≤ 0x7E) || isForeign c

/-- The text behind a line end. A carriage return alone is none. -/
def lineEnd? : List Char → Option (List Char)
  | '\n' :: rest => some rest
  | '\r' :: '\n' :: rest => some rest
  | _ => none

def skipComment (text : List Char) : List Char :=
  match text with
  | '#' :: rest => rest.dropWhile isCommentChar
  | _ => text

/-- The text behind the end of a line on which only blanks and a comment are left. The text may end
instead. -/
def closeLine? (text : List Char) : Option (List Char) :=
  match skipComment (skipBlank text) with
  | [] => some []
  | rest => lineEnd? rest

/-- Passes over blanks, line ends and comments, each of which ends its line. -/
def skipLines (text : List Char) : List Char :=
  let start := skipBlank text
  match lineEnd? (skipComment start) with
  | some rest => if rest.length < text.length then skipLines rest else start
  | none => start
  termination_by text.length

theorem length_lt_of_lineEnd? {text rest : List Char} (h : lineEnd? text = some rest) :
    rest.length < text.length := by
  unfold lineEnd? at h
  split at h <;> grind

end Throughput.Toml
