import MiniLisp.Real64

namespace MiniLisp

/-- The integer nearest to `numerator / denominator`, a tie going to the even one. -/
def roundedQuotient (numerator denominator : Nat) : Nat :=
  let quotient := numerator / denominator
  let twice := 2 * (numerator % denominator)
  if twice < denominator then quotient
  else if denominator < twice then quotient + 1
  else quotient + quotient % 2

namespace Real64

/-- The exponent of the last place of a number near `numerator / denominator`: 53 bits are kept,
and no place is below `2 ^ (-1074)`. -/
def placeExponent (numerator denominator : Nat) : Int :=
  let place : Int := (numerator.log2 : Int) - denominator.log2 - 52
  let short := if 0 ≤ place then numerator < denominator <<< (place.toNat + 52)
    else numerator <<< (-place).toNat < denominator <<< 52
  max (if short then place - 1 else place) (-1074)

/-- The number of 64 bits nearest to `numerator / denominator`. Counting the significand onto the
exponent field carries into the next exponent when rounding reaches a power of two. -/
def ofQuotient (negative : Bool) (numerator denominator : Nat) : Real64 :=
  if numerator = 0 then ofMagnitude negative 0
  else
    let place := placeExponent numerator denominator
    let significand := if 0 ≤ place then roundedQuotient numerator (denominator <<< place.toNat)
      else roundedQuotient (numerator <<< (-place).toNat) denominator
    ofMagnitude negative ((place + 1074).toNat * exponentBit + significand)

def ofInt (n : Int) : Real64 := ofQuotient (n < 0) n.natAbs 1

def decimalLength (n : Nat) : Nat := if n = 0 then 0 else (Nat.toDigits 10 n).length

/-- The number nearest to `significand * 10 ^ exponent`. Outside of 400 decimal orders of
magnitude the nearest one is an infinity or zero whatever the digits. -/
def ofDecimal (negative : Bool) (significand : Nat) (exponent : Int) : Real64 :=
  let order := exponent + decimalLength significand
  if significand = 0 || order < -400 then ofMagnitude negative 0
  else if 400 < order then infinity negative
  else if 0 ≤ exponent then ofQuotient negative (significand * Nat.pow 10 exponent.toNat) 1
  else ofQuotient negative significand (Nat.pow 10 (-exponent).toNat)

end Real64

end MiniLisp
