import Throughput.Toml.Value

/-!
# Documents of TOML

A document is read line by line. The table whose header came last is kept apart while its keys are
read, and put into its place when the next header comes.
-/

namespace Throughput.Toml

/-- What the keys that are being read belong to. -/
inductive Section where
  | top
  | table (key : Key)
  | element (key : Key)
  deriving DecidableEq, Repr

structure Draft where
  root : Table
  current : Table
  place : Section

namespace Draft

def initial : Draft :=
  ⟨.root, .root, .top⟩

def close? (draft : Draft) : Option Table :=
  match draft.place with
  | .top => some draft.current
  | .table key =>
    (draft.root.update .implied (Table.setHere key.name draft.current) key.path).map Prod.fst
  | .element key =>
    (draft.root.update .implied (Table.addHere key.name draft.current) key.path).map Prod.fst

def openTable? (draft : Draft) (key : Key) : Option Draft := do
  let closed ← draft.close?
  let (root, current) ← closed.update .implied (Table.takeHere key.name) key.path
  return ⟨root, current, .table key⟩

def openElement? (draft : Draft) (key : Key) : Option Draft := do
  let closed ← draft.close?
  let (root, _) ← closed.update .implied (Table.admitHere key.name) key.path
  return ⟨root, .root, .element key⟩

def define? (draft : Draft) (key : Key) (setting : Setting) : Option Draft := do
  let current ← draft.current.define key.path key.name setting
  return { draft with current }

/-- Reads what stands on a line: a header or a key with its value. -/
def statement? (draft : Draft) (text : List Char) : Option (Draft × List Char) :=
  match text with
  | '[' :: '[' :: rest => do
    let (key, after) ← key? rest
    match after with
    | ']' :: ']' :: left => return (← draft.openElement? key, left)
    | _ => none
  | '[' :: rest => do
    let (key, after) ← key? rest
    match after with
    | ']' :: left => return (← draft.openTable? key, left)
    | _ => none
  | _ => do
    let ((key, setting), rest) ← keyValue? (value? depthLimit) text
    return (← draft.define? key setting, rest)

def lines? (draft : Draft) (text : List Char) : Option Draft :=
  match skipBlank text with
  | [] => some draft
  | start =>
    match closeLine? start with
    | some rest => if rest.length < text.length then lines? draft rest else none
    | none => do
      let (next, after) ← draft.statement? start
      let rest ← closeLine? after
      if rest.length < text.length then lines? next rest else none
  termination_by text.length

end Draft

/-- A byte order mark may stand in front of a document. -/
def skipMark (text : List Char) : List Char :=
  match text with
  | '\uFEFF' :: rest => rest
  | _ => text

def parse? (text : String) : Option Setting := do
  let draft ← Draft.initial.lines? (skipMark text.toList)
  let table ← draft.close?
  return table.item.setting

end Throughput.Toml
