/-!
# Shortest decimals

The shortest decimal that reads back as a given binary64 number. A number is taken apart into
`mantissa * 2 ^ exponent`, its rounding interval is compared with the points of ever finer decimal
grids, and the first grid with a point inside gives the digits. All comparisons are exact.
-/

namespace Throughput.Numeric

inductive Double where
  | notANumber
  | infinite (negative : Bool)
  | finite (negative : Bool) (mantissa : Nat) (exponent : Int)
  deriving DecidableEq, Repr

namespace Double

def fractionBits : Nat := 52

/-- The bit in front of the fraction, which is not stored. -/
def hiddenBit : Nat := 1 <<< fractionBits

def leastExponent : Int := -1074

/-- Splits a bit pattern into sign, mantissa and exponent of two. -/
def ofBits (bits : UInt64) : Double :=
  let word := bits.toNat
  let negative := decide (0x8000000000000000 ≤ word)
  let biased : Nat := (word >>> fractionBits) % 2048
  let fraction : Nat := word % hiddenBit
  if biased = 2047 then
    if fraction = 0 then .infinite negative else .notANumber
  else if biased = 0 then
    .finite negative fraction leastExponent
  else
    .finite negative (hiddenBit + fraction) ((biased : Int) - 1 + leastExponent)

end Double

/-- The non-negative decimal `digits * 10 ^ exponent`. -/
structure Decimal where
  digits : Nat
  exponent : Int
  deriving DecidableEq, Repr

structure Fraction where
  numerator : Nat
  denominator : Nat
  deriving DecidableEq, Repr

namespace Fraction

def ofBinary (n : Nat) (e : Int) : Fraction :=
  ⟨n <<< e.toNat, 1 <<< (-e).toNat⟩

def shift (x : Fraction) (e : Int) : Fraction :=
  ⟨x.numerator * Nat.pow 10 (-e).toNat, x.denominator * Nat.pow 10 e.toNat⟩

def floor (x : Fraction) : Nat :=
  x.numerator / x.denominator

def le (x y : Fraction) : Bool :=
  x.numerator * y.denominator ≤ y.numerator * x.denominator

def lt (x y : Fraction) : Bool :=
  x.numerator * y.denominator < y.numerator * x.denominator

end Fraction

/-- The number of decimal digits of `n`; zero has none. -/
def digitCount (n : Nat) : Nat :=
  if n = 0 then 0 else (Nat.toDigits 10 n).length

/-- The `p` with `10 ^ (p - 1) ≤ x < 10 ^ p`, for a positive `x`. -/
def decimalPoint (x : Fraction) : Int :=
  if x.denominator ≤ x.numerator then
    digitCount x.floor
  else
    1 - digitCount ((x.denominator - 1) / x.numerator)

/-- The reals that round to one double, with the double itself in the middle. -/
structure RoundingInterval where
  low : Fraction
  value : Fraction
  high : Fraction
  closed : Bool

namespace RoundingInterval

/-- The interval reaches half way to both neighbours. Below a power of two the gap is halved. A tie
goes to the even mantissa, so the ends belong to an even one. -/
def ofMantissa (mantissa : Nat) (exponent : Int) : RoundingInterval :=
  let lowGap :=
    if mantissa = Double.hiddenBit ∧ exponent ≠ Double.leastExponent then 1 else 2
  { low := .ofBinary (4 * mantissa - lowGap) (exponent - 2)
    value := .ofBinary (4 * mantissa) (exponent - 2)
    high := .ofBinary (4 * mantissa + 2) (exponent - 2)
    closed := mantissa % 2 = 0 }

def contains (interval : RoundingInterval) (n : Nat) (e : Int) : Bool :=
  let point : Fraction := ⟨n, 1⟩
  let low := interval.low.shift e
  let high := interval.high.shift e
  if interval.closed then low.le point && point.le high else low.lt point && point.lt high

/-- The point of the grid `10 ^ e` in the interval that is nearest to the value; of two equally near
ones the even one. -/
def nearest? (interval : RoundingInterval) (e : Int) : Option Nat :=
  let scaled := interval.value.shift e
  let below := scaled.floor
  let rest := scaled.numerator % scaled.denominator
  let belowIsNearer := decide (2 * rest < scaled.denominator) ||
    decide (2 * rest = scaled.denominator ∧ below % 2 = 0)
  match interval.contains below e, interval.contains (below + 1) e with
  | true, true => some (if belowIsNearer then below else below + 1)
  | true, false => some below
  | false, true => some (below + 1)
  | false, false => none

/-- The first of the grids with `count`, `count + 1`, … digits that has a point inside. -/
def search (interval : RoundingInterval) (point : Int) : (fuel count : Nat) → Decimal
  | 0, count => ⟨(interval.value.shift (point - count)).floor, point - count⟩
  | fuel + 1, count =>
    match interval.nearest? (point - count) with
    | some digits => ⟨digits, point - count⟩
    | none => interval.search point fuel (count + 1)

end RoundingInterval

def Decimal.trim (d : Decimal) : Decimal :=
  if h : d.digits ≠ 0 ∧ d.digits % 10 = 0 then
    Decimal.trim ⟨d.digits / 10, d.exponent + 1⟩
  else
    d
  termination_by d.digits
  decreasing_by omega

/-- The shortest decimal that rounds to `mantissa * 2 ^ exponent`. Seventeen digits tell any two
doubles apart, so the search needs no more. -/
def shortest (mantissa : Nat) (exponent : Int) : Decimal :=
  if mantissa = 0 then
    ⟨0, 0⟩
  else
    let interval := RoundingInterval.ofMantissa mantissa exponent
    (interval.search (decimalPoint interval.value) 17 1).trim

end Throughput.Numeric
