/-!
# Scaled numbers

Decimal numbers rounded to doubles.
-/

namespace Throughput.Numeric

/-- Exponents beyond this size leave nothing but zero and infinity. -/
def exponentLimit : Int := 100000

/-- The double nearest to `mantissa * 10 ^ exponent`. -/
def scaled (mantissa : Nat) (exponent : Int) : Float :=
  let bounded := max (-exponentLimit) (min exponentLimit exponent)
  Float.ofScientific mantissa (bounded < 0) bounded.natAbs

def signedScaled (negative : Bool) (mantissa : Nat) (exponent : Int) : Float :=
  if negative then -(scaled mantissa exponent) else scaled mantissa exponent

end Throughput.Numeric
