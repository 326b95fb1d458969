import Throughput.Json.Fault
import Throughput.Numeric.Word
import Throughput.Text.Digits

/-!
# Numerals

The written form of numbers. A numeral without fraction and exponent that fits into 64 bits is an
integer; every other one is rounded to a double. Rounding works on as many leading digits as fit
into 64 bits, which are scaled by a power of ten.
-/

namespace Throughput.Json

structure Exponent where
  negative : Bool
  digits : List Char
  deriving DecidableEq, Repr

structure Numeral where
  negative : Bool
  whole : List Char
  fraction : Option (List Char)
  exponent : Option Exponent
  deriving DecidableEq, Repr

/-- A number as it is handed to whoever reads it. -/
inductive Number where
  | natural (n : Nat)
  | negative (n : Nat)
  | double (x : Float)

namespace Numeral

inductive Flaw where
  | unfinished
  | wrong
  deriving DecidableEq, Repr

def Flaw.fault : Flaw → Fault
  | .unfinished => .truncated
  | .wrong => .malformed

abbrev Scan (α : Type) := Except Flaw (α × List Char)

def isDigit (c : Char) : Bool :=
  c.isDigit

def scanDigits (text : List Char) : Scan (List Char) :=
  match text with
  | [] => .error .unfinished
  | c :: _ =>
    if isDigit c then .ok (text.takeWhile isDigit, text.dropWhile isDigit) else .error .wrong

/-- Reads in front of the digits. A leading zero stands alone. -/
def scanWhole (text : List Char) : Scan (List Char) :=
  match text with
  | '0' :: c :: rest => if isDigit c then .error .wrong else .ok (['0'], c :: rest)
  | _ => scanDigits text

def scanFraction (text : List Char) : Scan (Option (List Char)) :=
  match text with
  | '.' :: rest => (scanDigits rest).map fun (digits, after) => (some digits, after)
  | _ => .ok (none, text)

def scanSign (text : List Char) : Bool × List Char :=
  match text with
  | '+' :: rest => (false, rest)
  | '-' :: rest => (true, rest)
  | _ => (false, text)

def isExponentMark (c : Char) : Bool :=
  c = 'e' || c = 'E'

def scanExponent (text : List Char) : Scan (Option Exponent) :=
  match text with
  | c :: rest =>
    if isExponentMark c then
      let (negative, digits) := scanSign rest
      (scanDigits digits).map fun (digits, after) => (some ⟨negative, digits⟩, after)
    else
      .ok (none, c :: rest)
  | [] => .ok (none, [])

def scanUnsigned (negative : Bool) (text : List Char) : Except Flaw (Numeral × List Char) := do
  let (whole, afterWhole) ← scanWhole text
  let (fraction, afterFraction) ← scanFraction afterWhole
  let (exponent, rest) ← scanExponent afterFraction
  return (⟨negative, whole, fraction, exponent⟩, rest)

theorem length_lt_of_scanDigits {text rest digits : List Char}
    (h : scanDigits text = .ok (digits, rest)) : rest.length < text.length := by
  unfold scanDigits at h
  split at h
  · simp at h
  · rename_i c tail
    split at h
    · rename_i digit
      simp only [Except.ok.injEq, Prod.mk.injEq] at h
      rw [← h.2, List.dropWhile_cons_of_pos digit]
      exact Nat.lt_succ_of_le (List.dropWhile_suffix _).length_le
    · simp at h

theorem length_lt_of_scanWhole {text rest whole : List Char}
    (h : scanWhole text = .ok (whole, rest)) : rest.length < text.length := by
  unfold scanWhole at h
  split at h
  · split at h
    · simp at h
    · simp only [Except.ok.injEq, Prod.mk.injEq] at h
      simp [← h.2]
  · exact length_lt_of_scanDigits h

theorem length_le_of_scanFraction {text rest : List Char} {fraction : Option (List Char)}
    (h : scanFraction text = .ok (fraction, rest)) : rest.length ≤ text.length := by
  unfold scanFraction at h
  split at h
  · rename_i after
    match inner : scanDigits after with
    | .error _ => simp [inner, Except.map] at h
    | .ok (digits, left) =>
      simp only [inner, Except.map, Except.ok.injEq, Prod.mk.injEq] at h
      have := length_lt_of_scanDigits inner
      simp only [← h.2, List.length_cons]
      omega
  · simp only [Except.ok.injEq, Prod.mk.injEq] at h
    simp [← h.2]

theorem length_scanSign_le (text : List Char) : (scanSign text).2.length ≤ text.length := by
  unfold scanSign
  split <;> simp

theorem length_le_of_scanExponent {text rest : List Char} {exponent : Option Exponent}
    (h : scanExponent text = .ok (exponent, rest)) : rest.length ≤ text.length := by
  unfold scanExponent at h
  split at h
  · rename_i c after
    split at h
    · match inner : scanDigits (scanSign after).2 with
      | .error _ => simp [inner, Except.map] at h
      | .ok (digits, left) =>
        simp only [inner, Except.map, Except.ok.injEq, Prod.mk.injEq] at h
        have := length_lt_of_scanDigits inner
        have := length_scanSign_le after
        simp only [← h.2, List.length_cons]
        omega
    · simp only [Except.ok.injEq, Prod.mk.injEq] at h
      simp [← h.2]
  · simp only [Except.ok.injEq, Prod.mk.injEq] at h
    simp [← h.2]

theorem length_lt_of_scanUnsigned {negative : Bool} {text rest : List Char} {numeral : Numeral}
    (h : scanUnsigned negative text = .ok (numeral, rest)) : rest.length < text.length := by
  simp only [scanUnsigned, bind, Except.bind, pure, Except.pure] at h
  split at h
  · simp at h
  · rename_i whole
    split at h
    · simp at h
    · rename_i fraction
      split at h
      · simp at h
      · rename_i exponent
        simp only [Except.ok.injEq, Prod.mk.injEq] at h
        have := length_lt_of_scanWhole whole
        have := length_le_of_scanFraction fraction
        have := length_le_of_scanExponent exponent
        rw [← h.2]
        omega

/-- Digits that fit. The number grows by each of them as long as it stays in 64 bits; the first that
does not fit ends it. Gives the number, and how many digits it took. -/
def absorb : (n : Nat) → List Char → Nat × Nat
  | n, [] => (n, 0)
  | n, c :: rest =>
    let next := 10 * n + (Text.digit? 10 c).getD 0
    if Numeric.maxWord64 < next then
      (n, 0)
    else
      let (full, count) := absorb next rest
      (full, count + 1)

def powerOfTen (n : Nat) : Float :=
  Float.ofScientific 1 false n

/-- `x * 10 ^ exponent`. A factor beyond the range of doubles is applied in steps, and a result
beyond it is refused. -/
def scale (x : Float) (exponent : Int) : Outcome Float :=
  if exponent.natAbs ≤ 308 then
    if 0 ≤ exponent then
      let product := x * powerOfTen exponent.natAbs
      if product.isInf then .error .malformed else .ok product
    else
      .ok (x / powerOfTen exponent.natAbs)
  else if x == 0.0 then
    .ok x
  else if 0 ≤ exponent then
    .error .malformed
  else
    scale (x / powerOfTen 308) (exponent + 308)
  termination_by exponent.natAbs
  decreasing_by omega

def signed (negative : Bool) (x : Float) : Float :=
  if negative then -x else x

def ofParts (negative : Bool) (significand : Nat) (exponent : Int) : Outcome Float :=
  (scale (UInt64.ofNat significand).toFloat exponent).map (signed negative)

def maxExponent : Nat := 0x7FFFFFFF

/-- The scaled significand. An exponent beyond 32 bits is refused, or makes the number zero. -/
def ofScaled (numeral : Numeral) (significand : Nat) (exponent : Int) : Outcome Float :=
  match numeral.exponent with
  | none => ofParts numeral.negative significand exponent
  | some written =>
    let size := Text.ofDigits 10 written.digits
    if maxExponent < size then
      if significand ≠ 0 ∧ !written.negative then .error .malformed
      else .ok (signed numeral.negative 0.0)
    else
      ofParts numeral.negative significand
        (if written.negative then exponent - size else exponent + size)

def double (numeral : Numeral) : Outcome Float :=
  let (whole, count) := absorb 0 numeral.whole
  let dropped : Int := numeral.whole.length - count
  match numeral.fraction with
  | none => numeral.ofScaled whole dropped
  | some fraction =>
    let (significand, places) := absorb whole fraction
    numeral.ofScaled significand (dropped - places)

/-- The number as an integer, where it is one. There is no negative zero among them. -/
def integer? (numeral : Numeral) : Option Number :=
  let size := Text.ofDigits 10 numeral.whole
  match numeral.fraction, numeral.exponent with
  | none, none =>
    if !numeral.negative then
      if size ≤ Numeric.maxWord64 then some (.natural size) else none
    else if size ≠ 0 ∧ Numeric.minSigned64 ≤ -(size : Int) then
      some (.negative size)
    else
      none
  | _, _ => none

def number (numeral : Numeral) : Outcome Number :=
  match numeral.integer? with
  | some n => .ok n
  | none => numeral.double.map .double

end Numeral

end Throughput.Json
