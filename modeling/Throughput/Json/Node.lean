import Throughput.Json.Token

/-!
# Nodes

The tree of a text. Every text has one: where it stops being JSON, the tree holds the fault in the
place in which a reader meets it. Whoever walks a tree in order so finds the first problem of the
text, be it one of form or one of kind.
-/

namespace Throughput.Json

/-- How the list of the members of a node ends. -/
inductive Ending where
  | closed
  /-- In the place of a comma or a bracket, or after a comma. -/
  | cut (fault : Fault) (afterComma : Bool)
  /-- In the place of the first key, with what a reader says who needs a text there. -/
  | strayKey (mismatch : Fault)
  deriving DecidableEq, Repr

inductive Node where
  | null
  | boolean (b : Bool)
  | number (leaf : Leaf Number)
  | quoted (leaf : Leaf (List Char))
  | array (items : List Node) (ending : Ending)
  | object (entries : List (Leaf (List Char) × Node)) (ending : Ending)
  | broken (fault : Fault)
  | absent

abbrev Entry := Leaf (List Char) × Node

/-- What a reader says who needs something else. It has read the leaf before. -/
def Leaf.mismatch {α : Type} (leaf : Leaf α) : Fault :=
  match leaf.value with
  | .ok _ => .mistyped
  | .error fault => fault

def Node.mismatch : Node → Fault
  | .null | .boolean _ | .array .. | .object .. => .mistyped
  | .number leaf => leaf.mismatch
  | .quoted leaf => leaf.mismatch
  | .broken fault => fault
  | .absent => .truncated

/-- As for the node that the token begins. -/
def Token.mismatch : Token → Fault
  | .null | .boolean _ | .opening _ => .mistyped
  | .number leaf => leaf.mismatch
  | .quoted leaf => leaf.mismatch
  | .broken fault => fault
  | .closing _ | .comma | .colon => .malformed

/-- A node that is being read, around the one that is read now. -/
inductive Frame where
  | array (items : List Node)
  | object (entries : List Entry) (key : Leaf (List Char))

namespace Frame

def close (frame : Frame) (node : Node) (ending : Ending) : Node :=
  match frame with
  | .array items => .array (items ++ [node]) ending
  | .object entries key => .object (entries ++ [(key, node)]) ending

def bracket : Frame → Bracket
  | .array _ => .array
  | .object .. => .object

end Frame

/-- A tree and the tokens behind it. -/
abbrev Document := Node × List Token

namespace Document

/-- The tree of a text that stops being one inside the given node. -/
def cut (stack : List Frame) (node : Node) : Document :=
  (stack.foldl (fun inner frame => frame.close inner (.cut .truncated false)) node, [])

/-- The fault of whatever stands where something else has to. -/
def misplaced (tokens : List Token) : Fault :=
  if tokens.isEmpty then .truncated else .malformed

mutual

def value (stack : List Frame) : List Token → Document
  | [] => cut stack .absent
  | .opening .array :: .closing .array :: rest => finish stack (.array [] .closed) rest
  | .opening .array :: rest => value (.array [] :: stack) rest
  | .opening .object :: .closing .object :: rest => finish stack (.object [] .closed) rest
  | .opening .object :: rest => key stack [] rest
  | .null :: rest => finish stack .null rest
  | .boolean b :: rest => finish stack (.boolean b) rest
  | .number leaf :: rest => finish stack (.number leaf) rest
  | .quoted leaf :: rest => finish stack (.quoted leaf) rest
  | .broken fault :: _ => cut stack (.broken fault)
  | .closing _ :: _ | .comma :: _ | .colon :: _ => cut stack (.broken .malformed)

def key (stack : List Frame) (entries : List Entry) : List Token → Document
  | .quoted leaf :: .colon :: rest => value (.object entries leaf :: stack) rest
  | .quoted leaf :: rest =>
    cut stack (.object (entries ++ [(leaf, .broken (misplaced rest))]) .closed)
  | [] => cut stack (.object entries (.cut .truncated !entries.isEmpty))
  | token :: _ =>
    let ending := if entries.isEmpty then .strayKey token.mismatch else .cut .malformed true
    cut stack (.object entries ending)

def finish (stack : List Frame) (node : Node) : List Token → Document
  | [] =>
    match stack with
    | [] => (node, [])
    | frame :: outer => cut outer (frame.close node (.cut .truncated false))
  | .comma :: rest =>
    match stack with
    | [] => (node, .comma :: rest)
    | .array items :: outer =>
      match rest with
      | [] => cut outer (.array (items ++ [node]) (.cut .truncated true))
      | .closing .array :: _ => cut outer (.array (items ++ [node]) (.cut .malformed true))
      | _ => value (.array (items ++ [node]) :: outer) rest
    | .object entries name :: outer => key outer (entries ++ [(name, node)]) rest
  | .closing bracket :: rest =>
    match stack with
    | [] => (node, .closing bracket :: rest)
    | frame :: outer =>
      if bracket = frame.bracket then finish outer (frame.close node .closed) rest
      else cut outer (frame.close node (.cut .malformed false))
  | token :: rest =>
    match stack with
    | [] => (node, token :: rest)
    | frame :: outer => cut outer (frame.close node (.cut .malformed false))

end

def ofText (text : List Char) : Document :=
  value [] (Token.ofText text)

end Document

end Throughput.Json
