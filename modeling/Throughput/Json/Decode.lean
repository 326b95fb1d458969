import Throughput.Json.Node

/-!
# Decoding

Reading typed values off a tree. The first problem in reading order decides. A record is written as
an object or as the list of its fields in order; fields that it does not know are skipped.
-/

namespace Throughput.Json

/-- The end of a list that is read to its end. -/
def Ending.check : Ending → Outcome Unit
  | .closed => .ok ()
  | .cut fault _ => .error fault
  | .strayKey _ => .error .malformed

/-- The end of a list that is left before its end. Whatever comes after a comma is too much. -/
def Ending.checkShort : Ending → Outcome Unit
  | .closed => .ok ()
  | .cut fault afterComma => .error (if afterComma then .malformed else fault)
  | .strayKey _ => .error .malformed

namespace Node

def chars : Node → Outcome (List Char)
  | .quoted leaf => leaf.value
  | node => .error node.mismatch

def string (node : Node) : Outcome String :=
  node.chars.map String.ofList

def bool : Node → Outcome Bool
  | .boolean b => .ok b
  | node => .error node.mismatch

def unit : Node → Outcome Unit
  | .null => .ok ()
  | node => .error node.mismatch

def upTo (limit : Nat) : Node → Outcome Nat
  | .number leaf => do
    match ← leaf.value with
    | .natural n => if n ≤ limit then .ok n else .error .mistyped
    | .negative _ | .double _ => .error .mistyped
  | node => .error node.mismatch

def word16 (node : Node) : Outcome UInt16 :=
  (node.upTo Numeric.maxWord16).map UInt16.ofNat

def word32 (node : Node) : Outcome UInt32 :=
  (node.upTo Numeric.maxWord32).map UInt32.ofNat

def word64 (node : Node) : Outcome UInt64 :=
  (node.upTo Numeric.maxWord64).map UInt64.ofNat

def double : Node → Outcome Float
  | .number leaf => do
    match ← leaf.value with
    | .natural n => return (UInt64.ofNat n).toFloat
    | .negative n => return -(UInt64.ofNat n).toFloat
    | .double x => return x
  | node => .error node.mismatch

def list {α : Type} (read : Node → Outcome α) : Node → Outcome (List α)
  | .array items ending => do
    let values ← items.mapM read
    ending.check
    return values
  | node => .error node.mismatch

mutual

/-- Passes over a value that nobody needs. -/
def skip : Node → Outcome Unit
  | .null | .boolean _ => .ok ()
  | .number leaf => leaf.skipped
  | .quoted leaf => leaf.skipped
  | .array items ending => do
    skipItems items
    ending.check
  | .object entries ending => do
    skipEntries entries
    ending.check
  | .broken fault => .error fault
  | .absent => .error .truncated

def skipItems : List Node → Outcome Unit
  | [] => .ok ()
  | item :: rest => do
    skip item
    skipItems rest

def skipEntries : List (Leaf (List Char) × Node) → Outcome Unit
  | [] => .ok ()
  | (key, node) :: rest => do
    key.skipped
    skip node
    skipEntries rest

end

mutual

/-- Reads a value in full whose kind is not known yet. Its brackets may be nested up to a depth. -/
def keep : (depth : Nat) → Node → Outcome Unit
  | _, .null | _, .boolean _ => .ok ()
  | _, .number leaf => leaf.value.map fun _ => ()
  | _, .quoted leaf => leaf.value.map fun _ => ()
  | 0, .array .. | 0, .object .. => .error .malformed
  | depth + 1, .array items ending => do
    keepItems depth items
    ending.check
  | depth + 1, .object entries ending => do
    keepEntries depth entries
    ending.check
  | _, .broken fault => .error fault
  | _, .absent => .error .truncated

def keepItems (depth : Nat) : List Node → Outcome Unit
  | [] => .ok ()
  | item :: rest => do
    keep depth item
    keepItems depth rest

def keepEntries (depth : Nat) : List (Leaf (List Char) × Node) → Outcome Unit
  | [] => .ok ()
  | (key, node) :: rest => do
    discard key.value
    keep depth node
    keepEntries depth rest

end

end Node

structure FieldShape (σ : Type) where
  name : String
  read : Node → σ → Outcome σ

/-- How a record is read. Fields that are absent keep their initial values, or are missed. -/
structure Shape (σ : Type) where
  fields : List (FieldShape σ)
  initial : σ
  optional : Bool

namespace Shape

variable {σ : Type}

def field? (shape : Shape σ) (name : String) : Option (FieldShape σ) :=
  shape.fields.find? fun field => field.name = name

/-- Fills the record from entries. A field comes at most once. -/
def readEntries (shape : Shape σ) :
    (seen : List String) → σ → List Entry → Outcome (List String × σ)
  | seen, record, [] => .ok (seen, record)
  | seen, record, (key, node) :: rest => do
    let name := String.ofList (← key.value)
    match shape.field? name with
    | none =>
      node.skip
      readEntries shape seen record rest
    | some field =>
      if seen.contains name then
        .error .mistyped
      else
        readEntries shape (name :: seen) (← field.read node record) rest

/-- Fills the record from its fields in order, and gives the fields that are left. -/
def readItems : List (FieldShape σ) → σ → List Node → Ending → Outcome (List (FieldShape σ) × σ)
  | [], record, [], ending => ending.checkShort.map fun _ => ([], record)
  | [], _, _ :: _, _ => .error .malformed
  | fields, record, [], ending => ending.check.map fun _ => (fields, record)
  | field :: fields, record, node :: rest, ending => do
    readItems fields (← field.read node record) rest ending

def read (shape : Shape σ) : Node → Outcome σ
  | .object entries ending => do
    let (seen, record) ← shape.readEntries [] shape.initial entries
    ending.check
    if shape.optional || seen.length = shape.fields.length then .ok record else .error .mistyped
  | .array items ending => do
    let (left, record) ← readItems shape.fields shape.initial items ending
    if shape.optional || left.isEmpty then .ok record else .error .mistyped
  | node => .error node.mismatch

end Shape

def decode {α : Type} (read : Node → Outcome α) (text : String) : Outcome α := do
  let (node, rest) := Document.ofText text.toList
  let value ← read node
  if rest.isEmpty then return value else .error .malformed

end Throughput.Json
