import Throughput.Numeric.Shortest
import Throughput.Text.Digits

/-!
# Amounts

Doubles are written with the fewest digits that read back the same. From a hundred-thousandth up to
ten quadrillions the point stands in its place, and at least one digit follows it; beyond that an
exponent with its sign is written. What is no number at all is written as null.
-/

namespace Throughput.Json

open Numeric

namespace Amount

/-- The positions of the point, counted from before the first digit, that are written out. -/
def leastPoint : Int := -4

def greatestPoint : Int := 16

def positional (digits : List Char) (point : Nat) : List Char :=
  if digits.length ≤ point then
    digits ++ List.replicate (point - digits.length) '0' ++ ".0".toList
  else
    digits.take point ++ '.' :: digits.drop point

def fractional (digits : List Char) (zeros : Nat) : List Char :=
  "0.".toList ++ List.replicate zeros '0' ++ digits

def scientific (digits : List Char) (exponent : Int) : List Char :=
  let mantissa := match digits with
    | first :: second :: rest => first :: '.' :: second :: rest
    | _ => digits
  let sign := if exponent < 0 then '-' else '+'
  mantissa ++ 'e' :: sign :: Text.decimal exponent.natAbs

def ofDecimal (d : Decimal) : List Char :=
  let digits := Text.decimal d.digits
  let point : Int := digits.length + d.exponent
  if leastPoint ≤ point ∧ point ≤ 0 then fractional digits point.natAbs
  else if 0 < point ∧ point ≤ greatestPoint then positional digits point.natAbs
  else scientific digits (point - 1)

def ofDouble : Double → List Char
  | .notANumber | .infinite _ => "null".toList
  | .finite negative mantissa exponent =>
    let size := if mantissa = 0 then "0.0".toList else ofDecimal (shortest mantissa exponent)
    if negative then '-' :: size else size

def text (x : Float) : List Char :=
  ofDouble (.ofBits x.toBits)

end Amount

end Throughput.Json
