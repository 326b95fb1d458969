import Throughput.Text.Digits
import Throughput.Text.Fields

/-!
# Ranges of code points

A property of code points is kept as a sorted array of ranges. A range starts at its code point and
reaches to the start of the next one.
-/

namespace Throughput.Unicode

abbrev Ranges (α : Type) := Array (Nat × α)

namespace Ranges

variable {α : Type}

/-- The last index between `low` and `high` whose range starts at or before the code point. -/
def lastBelow (ranges : Ranges α) (code low high : Nat) : Nat :=
  if high - low ≤ 1 then
    low
  else
    let middle := (low + high) / 2
    match ranges[middle]? with
    | none => low
    | some (start, _) =>
      if start ≤ code then lastBelow ranges code middle high else lastBelow ranges code low middle
  termination_by high - low
  decreasing_by all_goals omega

def find? (ranges : Ranges α) (code : Nat) : Option (Nat × α) :=
  match ranges[ranges.lastBelow code 0 ranges.size]? with
  | some (start, a) => if start ≤ code then some (start, a) else none
  | none => none

def get (ranges : Ranges α) (default : α) (code : Nat) : α :=
  match ranges.find? code with
  | some (_, a) => a
  | none => default

/-- Reads ranges written as `start:code`, with blanks between them. -/
def ofText (read : List Char → α) (text : String) : Ranges α :=
  let ranges := (Text.words text.toList).map fun word =>
    (Text.ofDigits 16 (word.takeWhile (· ≠ ':')), read ((word.dropWhile (· ≠ ':')).drop 1))
  ranges.toArray

end Ranges

/-- Code points in hexadecimal, with commas between them. -/
def readCodes (text : List Char) : List Char :=
  (Text.splitOn ',' text).map fun code => Char.ofNat (Text.ofDigits 16 code)

end Throughput.Unicode
