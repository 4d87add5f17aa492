import MiniLisp.Real64.Rounding

namespace MiniLisp

namespace Real64

/-- The number nearest to `count / denominator` units. -/
def ofUnits (negative : Bool) (count denominator : Nat) : Real64 :=
  ofQuotient negative count (denominator * one)

def signedUnits (x : Real64) : Int := if x.negative then -x.units else x.units

def truncate (x : Real64) : Int := x.signedUnits.tdiv one

def floor (x : Real64) : Int := x.signedUnits.fdiv one

def ceil (x : Real64) : Int := -(-x.signedUnits).fdiv one

def nearestInteger (x : Real64) : Int :=
  let size : Int := roundedQuotient x.units one
  if x.negative then -size else size

def integral? (x : Real64) : Option Int :=
  if x.isFinite && x.units % one = 0 then some x.truncate else none

/-- What is left of `x` beyond its whole multiples of `y`, with the sign of `x`. -/
def truncatedRemainder (x y : Real64) : Real64 := ofUnits x.negative (x.units % y.units) 1

/-- What `x` differs by from the nearest multiple of `y`, an even one in a tie. -/
def nearestRemainder (x y : Real64) : Real64 :=
  let rest := x.units % y.units
  if roundedQuotient x.units y.units = x.units / y.units then ofUnits x.negative rest 1
  else ofUnits (!x.negative) (y.units - rest) 1

def fraction (x : Real64) : Real64 := ofUnits x.negative (x.units % one) 1

def whole (x : Real64) : Real64 := ofUnits x.negative (x.units - x.units % one) 1

def scale (x : Real64) (exponent : Int) : Real64 :=
  if 0 ≤ exponent then ofUnits x.negative (x.units <<< exponent.toNat) 1
  else ofUnits x.negative x.units (1 <<< (-exponent).toNat)

/-- The exponent for which the number is between a half and one when divided by that power of two.
-/
def binaryExponent (x : Real64) : Int := if x.units = 0 then 0 else (x.units.log2 : Int) + 1 - 1074

/-- The number of magnitudes away from zero at which a number stands, with its sign. -/
def rank (x : Real64) : Int := if x.negative then -x.magnitude else x.magnitude

def next (x y : Real64) : Real64 :=
  if x.rank = y.rank then y
  else
    let rank := if x.rank < y.rank then x.rank + 1 else x.rank - 1
    ofMagnitude (rank < 0 || (rank = 0 && x.negative)) rank.natAbs

/-- The number rounded to `places` decimal places, a tie going to the even neighbour. -/
def roundPlaces (x : Real64) (places : Int) : Real64 :=
  if 0 ≤ places then
    let power := Nat.pow 10 places.toNat
    ofQuotient x.negative (roundedQuotient (x.units * power) one) power
  else
    let power := Nat.pow 10 (-places).toNat
    ofQuotient x.negative (roundedQuotient x.units (one * power) * power) 1

end Real64

end MiniLisp
