/-!
# Settings

The values of a configuration before it is known what they are for. Layers of settings are merged
table by table: a later layer replaces single keys and leaves their neighbours as they are.
-/

namespace Throughput

inductive Setting where
  | text (text : String)
  | flag (b : Bool)
  | integer (n : Int)
  | real (x : Float)
  | list (items : List Setting)
  | table (entries : List (String × Setting))

namespace Setting

abbrev Entries := List (String × Setting)

def put (entries : Entries) (key : String) (value : Setting) : Entries :=
  match entries with
  | [] => [(key, value)]
  | (name, old) :: rest =>
    if name = key then (key, value) :: rest else (name, old) :: put rest key value

theorem lookup_put (entries : Entries) (key name : String) (value : Setting) :
    (put entries key value).lookup name =
      if name = key then some value else entries.lookup name := by
  induction entries with
  | nil => grind [put]
  | cons entry rest ih => grind [put]

mutual

def merge (old : Setting) : Setting → Setting
  | .table new =>
    match old with
    | .table entries => .table (mergeEntries entries new)
    | _ => .table new
  | new => new

def mergeEntries (old : List (String × Setting)) :
    List (String × Setting) → List (String × Setting)
  | [] => old
  | (key, value) :: rest =>
    let merged := match old.lookup key with
      | some earlier => merge earlier value
      | none => value
    mergeEntries (put old key merged) rest

end

def nest (path : List String) (value : Setting) : Setting :=
  path.foldr (fun key inner => .table [(key, inner)]) value

def empty : Setting :=
  .table []

end Setting

end Throughput
