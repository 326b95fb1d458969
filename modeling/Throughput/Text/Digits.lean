/-!
# Digits

Numbers written in a base up to sixteen.
-/

namespace Throughput.Text

def hexDigit? (c : Char) : Option Nat :=
  if '0' ≤ c ∧ c ≤ '9' then some (c.toNat - '0'.toNat)
  else if 'a' ≤ c ∧ c ≤ 'f' then some (c.toNat - 'a'.toNat + 10)
  else if 'A' ≤ c ∧ c ≤ 'F' then some (c.toNat - 'A'.toNat + 10)
  else none

def isHexDigit (c : Char) : Bool :=
  (hexDigit? c).isSome

def digit? (base : Nat) (c : Char) : Option Nat :=
  match hexDigit? c with
  | some n => if n < base then some n else none
  | none => none

/-- The number that a sequence of digits stands for. Other characters count as zeros. -/
def ofDigits (base : Nat) (digits : List Char) : Nat :=
  digits.foldl (fun n c => base * n + (digit? base c).getD 0) 0

def number? (base : Nat) (text : List Char) : Option Nat :=
  if !text.isEmpty && text.all fun c => (digit? base c).isSome then some (ofDigits base text)
  else none

def decimal? (text : List Char) : Option Nat :=
  number? 10 text

def decimal (n : Nat) : List Char :=
  Nat.toDigits 10 n

/-- The text without its sign, and whether the sign is a minus. -/
def splitSign (text : List Char) : Bool × List Char :=
  match text with
  | '-' :: rest => (true, rest)
  | '+' :: rest => (false, rest)
  | _ => (false, text)

def hex (n : Nat) : List Char :=
  Nat.toDigits 16 n

/-- The decimal digits of a number with zeros in front up to `width`. -/
def padded (width n : Nat) : List Char :=
  let digits := decimal n
  List.replicate (width - digits.length) '0' ++ digits

end Throughput.Text
