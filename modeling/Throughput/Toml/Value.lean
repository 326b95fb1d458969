import Throughput.Toml.Scalar
import Throughput.Toml.Table

/-!
# Values of TOML

Keys, and values with lists and inline tables. A list may span lines and may end in a comma; an
inline table may not.
-/

namespace Throughput.Toml

def isKeyChar (c : Char) : Bool :=
  c.isAlphanum || c = '_' || c = '-'

def keyPart? (text : List Char) : Option (String × List Char) :=
  match text with
  | '"' :: rest => (basic rest).map fun (name, after) => (String.ofList name, after)
  | '\'' :: rest => (literal rest).map fun (name, after) => (String.ofList name, after)
  | _ =>
    match text.takeWhile isKeyChar with
    | [] => none
    | name => some (String.ofList name, text.dropWhile isKeyChar)

/-- The parts of a dotted key, with the blanks around them. -/
def keyParts? (text : List Char) : Option (List String × List Char) := do
  let (name, rest) ← keyPart? (skipBlank text)
  match skipBlank rest with
  | '.' :: after =>
    if after.length < text.length then do
      let (names, left) ← keyParts? after
      return (name :: names, left)
    else
      none
  | left => return ([name], left)
  termination_by text.length

/-- How deep lists and inline tables, and how long keys, may be. -/
def depthLimit : Nat := 79

structure Key where
  path : List String
  name : String
  deriving DecidableEq, Repr

def key? (text : List Char) : Option (Key × List Char) := do
  let (parts, rest) ← keyParts? text
  let name ← parts.getLast?
  if parts.length ≤ depthLimit then some (⟨parts.dropLast, name⟩, rest) else none

abbrev Reader := List Char → Option (Setting × List Char)

/-- The values of a list, in front of one of them or of the closing bracket. -/
def items? (read : Reader) (text : List Char) : Option (List Setting × List Char) :=
  match text with
  | ']' :: rest => some ([], rest)
  | start => do
    let (item, rest) ← read start
    match skipLines rest with
    | ']' :: after => some ([item], after)
    | ',' :: after =>
      if (skipLines after).length < start.length then do
        let (more, left) ← items? read (skipLines after)
        return (item :: more, left)
      else
        none
    | _ => none
  termination_by text.length

def keyValue? (read : Reader) (text : List Char) : Option ((Key × Setting) × List Char) := do
  let (key, rest) ← key? text
  match rest with
  | '=' :: start =>
    let (setting, after) ← read (skipBlank start)
    return ((key, setting), skipBlank after)
  | _ => none

/-- The entries of an inline table, in front of one of them. -/
def inlineEntries? (read : Reader) (table : Table) (text : List Char) :
    Option (Table × List Char) := do
  let ((key, setting), rest) ← keyValue? read text
  let extended ← table.define key.path key.name setting
  match rest with
  | '\x7d' :: after => some (extended, after)
  | ',' :: after =>
    if after.length < text.length then inlineEntries? read extended after else none
  | _ => none
  termination_by text.length

def inlineTable? (read : Reader) (text : List Char) : Option (Setting × List Char) :=
  match skipBlank text with
  | '\x7d' :: rest => some (.table [], rest)
  | start => (inlineEntries? read .root start).map fun (table, rest) => (table.item.setting, rest)

/-- Any value. Lists and inline tables in it are nested up to the given depth. -/
def value? : (depth : Nat) → Reader
  | 0, text =>
    match text with
    | '[' :: _ | '\x7b' :: _ => none
    | _ => scalar? text
  | depth + 1, text =>
    match text with
    | '[' :: rest =>
      (items? (value? depth) (skipLines rest)).map fun (items, after) => (.list items, after)
    | '\x7b' :: rest => inlineTable? (value? depth) rest
    | _ => scalar? text

end Throughput.Toml
