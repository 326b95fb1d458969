import Throughput.Unicode.MappingData
import Throughput.Unicode.Ranges

/-!
# Host name mapping

What becomes of a character of an internationalized host name: it is kept, dropped, replaced or
refused.
-/

namespace Throughput.Unicode

inductive Mapping where
  | valid
  | ignored
  | disallowed
  | replaced (text : List Char)
  deriving DecidableEq, Repr

/-- How the characters of a range are mapped. -/
inductive MappingRule where
  | valid
  | ignored
  | disallowed
  /-- All to one text. -/
  | fixed (text : List Char)
  /-- To as many consecutive code points. -/
  | shifted (base : Nat)
  /-- Every other one to its successor, which is valid. -/
  | paired
  deriving DecidableEq, Repr

namespace MappingRule

def read : List Char → MappingRule
  | 'v' :: _ => .valid
  | 'i' :: _ => .ignored
  | 'm' :: codes => .fixed (readCodes codes)
  | 's' :: base => .shifted (Text.ofDigits 16 base)
  | 'p' :: _ => .paired
  | _ => .disallowed

def apply (rule : MappingRule) (code offset : Nat) : Mapping :=
  match rule with
  | .valid => .valid
  | .ignored => .ignored
  | .disallowed => .disallowed
  | .fixed text => .replaced text
  | .shifted base => .replaced [Char.ofNat (base + offset)]
  | .paired => if offset % 2 = 0 then .replaced [Char.ofNat (code + 1)] else .valid

end MappingRule

def mappingRanges : Ranges MappingRule :=
  .ofText MappingRule.read mappingText

def mapping (c : Char) : Mapping :=
  match mappingRanges.find? c.toNat with
  | some (start, rule) => rule.apply c.toNat (c.toNat - start)
  | none => .disallowed

def isValid (c : Char) : Bool :=
  mapping c = .valid

def mapText? : List Char → Option (List Char)
  | [] => some []
  | c :: rest =>
    match mapping c with
    | .valid => (mapText? rest).map (c :: ·)
    | .ignored => mapText? rest
    | .replaced text => (mapText? rest).map (text ++ ·)
    | .disallowed => none

end Throughput.Unicode
