import Throughput.Unicode.NormalData
import Throughput.Unicode.Ranges

/-!
# Canonical composition

The composed normal form of a text: every character is taken apart, marks are put into canonical
order, and what can be composed is composed again.
-/

namespace Throughput.Unicode

def combiningRanges : Ranges Nat :=
  .ofText (Text.ofDigits 10) combiningText

def combiningClass (c : Char) : Nat :=
  combiningRanges.get 0 c.toNat

def readPair (text : List Char) : Char × Char :=
  match readCodes text with
  | [first, second] => (first, second)
  | _ => ('\x00', '\x00')

/-- The primary composites with their two parts. -/
def composites : Ranges (Char × Char) :=
  .ofText readPair compositeText

def pairKey (first second : Char) : Nat :=
  first.toNat <<< 21 + second.toNat

def compositions : Ranges Char :=
  let entries := composites.toList.map fun (code, first, second) =>
    (pairKey first second, Char.ofNat code)
  (entries.mergeSort fun left right => left.1 ≤ right.1).toArray

namespace Hangul

def syllableBase : Nat := 0xAC00

def leadBase : Nat := 0x1100

def vowelBase : Nat := 0x1161

def trailBase : Nat := 0x11A7

def leadCount : Nat := 19

def vowelCount : Nat := 21

def trailCount : Nat := 28

def syllableCount : Nat := leadCount * vowelCount * trailCount

def decompose? (c : Char) : Option (List Char) :=
  let index := c.toNat - syllableBase
  if syllableBase ≤ c.toNat ∧ index < syllableCount then
    let lead := Char.ofNat (leadBase + index / (vowelCount * trailCount))
    let vowel := Char.ofNat (vowelBase + index % (vowelCount * trailCount) / trailCount)
    let trail := index % trailCount
    some (if trail = 0 then [lead, vowel] else [lead, vowel, Char.ofNat (trailBase + trail)])
  else
    none

def compose? (first second : Char) : Option Char :=
  let lead := first.toNat - leadBase
  let vowel := second.toNat - vowelBase
  let syllable := first.toNat - syllableBase
  let trail := second.toNat - trailBase
  if leadBase ≤ first.toNat ∧ lead < leadCount ∧ vowelBase ≤ second.toNat ∧ vowel < vowelCount then
    some (Char.ofNat (syllableBase + (lead * vowelCount + vowel) * trailCount))
  else if syllableBase ≤ first.toNat ∧ syllable < syllableCount ∧ syllable % trailCount = 0 ∧
      trailBase < second.toNat ∧ trail < trailCount then
    some (Char.ofNat (first.toNat + trail))
  else
    none

end Hangul

/-- Takes a character apart. Composites are nested at most `depth` deep. -/
def decompose : (depth : Nat) → Char → List Char
  | 0, c => [c]
  | depth + 1, c =>
    match Hangul.decompose? c with
    | some parts => parts
    | none =>
      match composites.find? c.toNat with
      | some (code, first, second) =>
        if code = c.toNat then decompose depth first ++ [second] else [c]
      | none => [c]

abbrev Classed := Char × Nat

/-- Puts a mark before the marks of higher classes at the end of a reversed text. -/
def placeMark (mark : Classed) : List Classed → List Classed
  | [] => [mark]
  | last :: before =>
    if mark.2 ≠ 0 ∧ mark.2 < last.2 then last :: placeMark mark before else mark :: last :: before

def ordered (text : List Char) : List Classed :=
  let parts := text.flatMap (decompose 5)
  (parts.foldl (fun placed c => placeMark (c, combiningClass c) placed) []).reverse

def compose? (first second : Char) : Option Char :=
  match Hangul.compose? first second with
  | some c => some c
  | none =>
    let key := pairKey first second
    match compositions.find? key with
    | some (found, c) => if found = key then some c else none
    | none => none

/-- Composes what follows a starter. `marks` are the marks that stay behind it, last one first. A
mark is blocked by one of no lower class in between. -/
def composeFrom (starter : Char) (marks : List Classed) : List Classed → List Char
  | [] => starter :: (marks.reverse.map Prod.fst)
  | (c, level) :: rest =>
    let blocked := marks.head?.any fun last => level ≤ last.2
    match if blocked then none else compose? starter c with
    | some composed => composeFrom composed marks rest
    | none =>
      if level = 0 then starter :: (marks.reverse.map Prod.fst) ++ composeFrom c [] rest
      else composeFrom starter ((c, level) :: marks) rest

def compose : List Classed → List Char
  | [] => []
  | (c, level) :: rest => if level = 0 then composeFrom c [] rest else c :: compose rest

def normalize (text : List Char) : List Char :=
  compose (ordered text)

end Throughput.Unicode
