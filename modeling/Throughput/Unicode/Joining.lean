import Throughput.Unicode.JoiningData
import Throughput.Unicode.Normal

/-!
# Joiners

Where a host name may hold one of the two invisible joiners: after a virama, and the one that keeps
letters apart also between two letters that would join.
-/

namespace Throughput.Unicode

inductive JoiningType where
  | dual
  | left
  | right
  | transparent
  | none
  deriving DecidableEq, Repr

namespace JoiningType

def read : List Char → JoiningType
  | ['D'] => .dual
  | ['L'] => .left
  | ['R'] => .right
  | ['T'] => .transparent
  | _ => .none

end JoiningType

def joiningRanges : Ranges JoiningType :=
  .ofText JoiningType.read joiningText

def joiningType (c : Char) : JoiningType :=
  joiningRanges.get .none c.toNat

def nonJoiner : Char := '\u200c'

def joiner : Char := '\u200d'

def viramaClass : Nat := 9

/-- The first joining type that is not transparent is the given one or dual. -/
def reaches (wanted : JoiningType) (text : List Char) : Bool :=
  match (text.map joiningType).dropWhile fun t => t = .transparent with
  | [] => false
  | t :: _ => t = wanted || t = .dual

/-- Checks the joiners of a label; `before` is what precedes, last character first. -/
def keepsJoiners (before : List Char) : List Char → Bool
  | [] => true
  | c :: rest =>
    let allowed :=
      if c = nonJoiner ∨ c = joiner then
        match before with
        | [] => false
        | previous :: _ =>
          combiningClass previous = viramaClass ||
            (c = nonJoiner && reaches .left before && reaches .right rest)
      else
        true
    allowed && keepsJoiners (c :: before) rest

end Throughput.Unicode
