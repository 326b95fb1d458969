import Throughput.Json.Amount
import Throughput.Json.Quoted

/-!
# Values

What is written as JSON, and its two layouts: without any blanks, or with every member on a line of
its own.
-/

namespace Throughput.Json

inductive Value where
  | boolean (b : Bool)
  | natural (n : Nat)
  | double (x : Float)
  | string (text : String)
  | array (items : List Value)
  | object (entries : List (String × Value))

inductive Layout where
  | compact
  | pretty
  deriving DecidableEq, Repr

namespace Layout

def indentWidth : Nat := 2

/-- What stands in front of each member, and in front of the closing bracket, at a depth. -/
def lineBreak (layout : Layout) (depth : Nat) : List Char :=
  match layout with
  | .compact => []
  | .pretty => '\n' :: List.replicate (indentWidth * depth) ' '

def colon : Layout → List Char
  | .compact => [':']
  | .pretty => [':', ' ']

/-- Members between brackets. No line is broken where there are none. -/
def enclose (layout : Layout) (depth : Nat) (left right : Char) (members : List (List Char)) :
    List Char :=
  if members.isEmpty then
    [left, right]
  else
    let lines := members.map fun member => layout.lineBreak (depth + 1) ++ member
    left :: List.intercalate [','] lines ++ layout.lineBreak depth ++ [right]

end Layout

namespace Value

mutual

def chars (layout : Layout) (depth : Nat) : Value → List Char
  | .boolean b => (if b then "true" else "false").toList
  | .natural n => Text.decimal n
  | .double x => Amount.text x
  | .string text => Quoted.encode text.toList
  | .array items => layout.enclose depth '[' ']' (itemChars layout (depth + 1) items)
  | .object entries =>
    layout.enclose depth '\x7b' '\x7d' (entryChars layout (depth + 1) entries)

def itemChars (layout : Layout) (depth : Nat) : List Value → List (List Char)
  | [] => []
  | item :: rest => chars layout depth item :: itemChars layout depth rest

def entryChars (layout : Layout) (depth : Nat) : List (String × Value) → List (List Char)
  | [] => []
  | (key, value) :: rest =>
    (Quoted.encode key.toList ++ layout.colon ++ chars layout depth value) ::
      entryChars layout depth rest

end

def render (layout : Layout) (value : Value) : String :=
  String.ofList (value.chars layout 0)

def doubles (xs : List Float) : Value :=
  .array (xs.map .double)

end Value

end Throughput.Json
