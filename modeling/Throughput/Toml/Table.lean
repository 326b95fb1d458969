import Throughput.Setting.Basic

/-!
# Tables of TOML

A table is built key by key, and its origin decides what may still be added to it. A table with a
header of its own is defined once; one that dotted keys have opened can be extended by dotted keys
only; one that is merely on the path to another may still get its header.
-/

namespace Throughput.Toml

inductive Origin where
  | header
  | dotted
  | implied
  deriving DecidableEq, Repr

inductive Item where
  | value (setting : Setting)
  | table (origin : Origin) (entries : List (String × Item))
  /-- The tables that were added one after the other under one name. -/
  | tables (elements : List (List (String × Item)))

abbrev Items := List (String × Item)

structure Table where
  origin : Origin
  entries : Items

namespace Table

def root : Table :=
  ⟨.header, []⟩

def empty (origin : Origin) : Table :=
  ⟨origin, []⟩

def item (table : Table) : Item :=
  .table table.origin table.entries

def put (entries : Items) (key : String) (item : Item) : Items :=
  match entries with
  | [] => [(key, item)]
  | (name, old) :: rest =>
    if name = key then (key, item) :: rest else (name, old) :: put rest key item

def set (table : Table) (key : String) (item : Item) : Table :=
  { table with entries := put table.entries key item }

def remove (table : Table) (key : String) : Table :=
  { table with entries := table.entries.filter fun entry => entry.1 ≠ key }

/-- Changes the table at the end of a path, and takes something from it. Tables that are missing on
the way are made. Dotted keys do not lead into a table that has a header; other paths lead into the
last of several tables. -/
def update {α : Type} (origin : Origin) (change : Table → Option (Table × α)) (table : Table) :
    List String → Option (Table × α)
  | [] => change table
  | key :: path =>
    match table.entries.lookup key with
    | none => do
      let (inner, taken) ← update origin change (.empty origin) path
      return (table.set key inner.item, taken)
    | some (.table found entries) =>
      if origin = .dotted ∧ found = .header then
        none
      else do
        let (inner, taken) ← update origin change ⟨found, entries⟩ path
        return (table.set key inner.item, taken)
    | some (.tables elements) => do
      let entries ← elements.getLast?
      let (inner, taken) ← update origin change ⟨.header, entries⟩ path
      return (table.set key (.tables (elements.dropLast ++ [inner.entries])), taken)
    | some (.value _) => none

/-- Puts a value under a key that is not in use. A table that was not opened by dotted keys is not
extended by them. -/
def defineHere (nested : Bool) (key : String) (setting : Setting) (table : Table) :
    Option (Table × Unit) :=
  if nested && table.origin ≠ .dotted then none
  else if !nested && table.origin = .dotted then none
  else if (table.entries.lookup key).isSome then none
  else some (table.set key (.value setting), ())

def define (table : Table) (path : List String) (key : String) (setting : Setting) :
    Option Table :=
  (table.update .dotted (defineHere (!path.isEmpty) key setting) path).map Prod.fst

/-- Takes the table that is to get its header out of its parent. It may be new, or one that was only
on the path to others. -/
def takeHere (key : String) (parent : Table) : Option (Table × Table) :=
  match parent.entries.lookup key with
  | none => some (parent, .empty .header)
  | some (.table .implied entries) => some (parent.remove key, ⟨.header, entries⟩)
  | some _ => none

/-- A parent in which one more table may be added under a key to those that are there. -/
def admitHere (key : String) (parent : Table) : Option (Table × Unit) :=
  match parent.entries.lookup key with
  | none | some (.tables _) => some (parent, ())
  | some _ => none

def addHere (key : String) (element : Table) (parent : Table) : Option (Table × Unit) :=
  match parent.entries.lookup key with
  | none => some (parent.set key (.tables [element.entries]), ())
  | some (.tables elements) => some (parent.set key (.tables (elements ++ [element.entries])), ())
  | some _ => none

def setHere (key : String) (inner : Table) (parent : Table) : Option (Table × Unit) :=
  some (parent.set key inner.item, ())

end Table

mutual

def Item.setting : Item → Setting
  | .value setting => setting
  | .table _ entries => .table (entrySettings entries)
  | .tables elements => .list (elementSettings elements)

def entrySettings : List (String × Item) → List (String × Setting)
  | [] => []
  | (key, item) :: rest => (key, item.setting) :: entrySettings rest

def elementSettings : List (List (String × Item)) → List Setting
  | [] => []
  | entries :: rest => .table (entrySettings entries) :: elementSettings rest

end

end Throughput.Toml
