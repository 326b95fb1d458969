import Throughput.Unicode.BidiData
import Throughput.Unicode.Ranges

/-!
# Writing direction

The bidirectional classes that matter for host names, and the rule that the labels of a host name
with right-to-left characters have to keep.
-/

namespace Throughput.Unicode

inductive BidiClass where
  | left
  | right
  | arabicLetter
  | arabicNumber
  | europeanNumber
  /-- Separators, terminators, boundaries and other neutrals. -/
  | neutral
  | mark
  /-- Classes that no label may hold. -/
  | excluded
  deriving DecidableEq, Repr

namespace BidiClass

def read (text : List Char) : BidiClass :=
  match String.ofList text with
  | "L" => .left
  | "R" => .right
  | "AL" => .arabicLetter
  | "AN" => .arabicNumber
  | "EN" => .europeanNumber
  | "ES" | "CS" | "ET" | "ON" | "BN" => .neutral
  | "NSM" => .mark
  | _ => .excluded

/-- A class that makes a host name one of mixed direction. -/
def isRightToLeft : BidiClass → Bool
  | .right | .arabicLetter | .arabicNumber => true
  | _ => false

def opensRightToLeft : BidiClass → Bool
  | .right | .arabicLetter => true
  | _ => false

def inLeftToRight : BidiClass → Bool
  | .left | .europeanNumber | .neutral | .mark => true
  | _ => false

def inRightToLeft : BidiClass → Bool
  | .right | .arabicLetter | .arabicNumber | .europeanNumber | .neutral | .mark => true
  | _ => false

def endsLeftToRight : BidiClass → Bool
  | .left | .europeanNumber => true
  | _ => false

def endsRightToLeft : BidiClass → Bool
  | .right | .arabicLetter | .europeanNumber | .arabicNumber => true
  | _ => false

end BidiClass

def bidiRanges : Ranges BidiClass :=
  .ofText BidiClass.read bidiText

def bidiClass (c : Char) : BidiClass :=
  bidiRanges.get .left c.toNat

/-- The last class that is not a mark. -/
def lastBase? (classes : List BidiClass) : Option BidiClass :=
  (classes.reverse.dropWhile fun b => b = .mark).head?

/-- A label keeps to the direction of its first character, ends in a letter or number, and does not
mix the two kinds of numbers from right to left. -/
def keepsDirection (label : List Char) : Bool :=
  let classes := label.map bidiClass
  match classes with
  | [] => true
  | first :: _ =>
    if first = .left then
      classes.all BidiClass.inLeftToRight && (lastBase? classes).any BidiClass.endsLeftToRight
    else if first.opensRightToLeft then
      classes.all BidiClass.inRightToLeft && (lastBase? classes).any BidiClass.endsRightToLeft &&
        !(classes.contains .europeanNumber && classes.contains .arabicNumber)
    else
      false

end Throughput.Unicode
