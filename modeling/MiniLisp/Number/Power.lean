import MiniLisp.Number.Arithmetic
import MiniLisp.Number.Length

namespace MiniLisp

namespace Number

def integral? (x : Float) : Option Int := (Real64.ofFloat? x).bind Real64.integral?

def isOddInteger (x : Float) : Bool := (integral? x).any fun n => n % 2 = 1

def positivePower (x y : Float) : Except Rejection Float :=
  let power := x.pow y
  if power.isInf then .error .powerTooLarge else .ok power

/-- The power of two real numbers where it is real; none where it is complex. -/
def realPower? (x y : Float) : Except Rejection (Option Float) :=
  if y.isInf then
    if x.abs == 1.0 then .ok (some 1.0)
    else if (0.0 < y) == (1.0 < x.abs) then .ok (some y.abs)
    else .ok (some 0.0)
  else if x.isInf then
    let odd := isOddInteger y
    if 0.0 < y then .ok (some (if odd then x else x.abs))
    else .ok (some (if odd && x < 0.0 then -0.0 else 0.0))
  else if x == 0.0 then
    if y < 0.0 then .error .zeroToNegativePower
    else .ok (some (if isOddInteger y then x else 0.0))
  else if x < 0.0 then
    match integral? y with
    | none => .ok none
    | some n => do
      let power ← if x == -1.0 then .ok 1.0 else positivePower (-x) y
      return some (if n % 2 = 1 then -power else power)
  else if x == 1.0 then .ok (some 1.0)
  else (positivePower x y).map some

/-- Powers by repeated squaring. `power` is the product so far and `square` the next square. -/
def complexNaturalPower (power square : Float × Float) (n : Nat) : Float × Float :=
  if n = 0 then power
  else
    let power := if n % 2 = 1 then complexProduct power.1 power.2 square.1 square.2 else power
    complexNaturalPower power (complexProduct square.1 square.2 square.1 square.2) (n / 2)

/-- A small integer power is a product, any other goes through the polar form, which must not turn
without end. -/
def complexPower (re im re' im' : Float) : Except Rejection (Float × Float) := do
  let small := match integral? re' with
    | some n => if im' == 0.0 && n.natAbs ≤ 100 then some n else none
    | none => none
  let (re, im) ← match small with
    | some n =>
      let (a, b) := complexNaturalPower (1.0, 0.0) (re, im) n.natAbs
      if 0 < n then .ok (a, b)
      else match complexQuotient? 1.0 0.0 a b with
        | some quotient => .ok quotient
        | none => .error .zeroToComplexPower
    | none =>
      if re' == 0.0 && im' == 0.0 then .ok (1.0, 0.0)
      else if re == 0.0 && im == 0.0 then
        if im' != 0.0 || re' < 0.0 then .error .zeroToComplexPower else .ok (0.0, 0.0)
      else
        let length := modulus re im
        let angle := im.atan2 re
        let size := length.pow re'
        let turn := angle * re'
        let (size, turn) := if im' != 0.0 then
          (size / (angle * im').exp, turn + im' * length.log) else (size, turn)
        if turn.isInf then .error .zeroToComplexPower
        else .ok (size * turn.cos, size * turn.sin)
  if re.isInf || im.isInf then .error .complexPowerTooLarge else .ok (re, im)

def floatPower (x y : Inexact) : Except Rejection Number :=
  if y.isZero then .ok (float (.ofFloat 1.0))
  else match x, y with
    | .nan negative, _ => .ok (float (.nan negative))
    | .real x, .nan negative =>
      .ok (float (if x.toFloat == 1.0 then .real x else .nan negative))
    | .real x, .real y => do
      match ← realPower? x.toFloat y.toFloat with
      | some power => return float (.ofFloat power)
      | none =>
        let (re, im) ← complexPower x.toFloat 0.0 y.toFloat 0.0
        return complex re im

def integerPower (n : Int) (m : Nat) : Int :=
  if n.natAbs ≤ 1 then (if m = 0 then 1 else if m % 2 = 0 then n * n else n) else n.pow m

def power (a b : Number) : Except Rejection Number := do
  match ← pair a b with
  | .ints n m =>
    if 0 ≤ m then return int (integerPower n m.toNat)
    else floatPower (.real (← floatOfInt n)) (.real (← floatOfInt m))
  | .floats x y => floatPower x y
  | .complexes re im re' im' =>
    let (re, im) ← complexPower re im re' im'
    return complex re im

end Number

end MiniLisp
