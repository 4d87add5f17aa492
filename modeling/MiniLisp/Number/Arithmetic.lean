import MiniLisp.Value.Number

/-!
The four operations on numbers. Integers are exact except under division; an integer beside a
float becomes one, and beside a complex number every number becomes complex.
-/

namespace MiniLisp.Number

/-- The nearest float, unless the integer is nearest to an infinity. -/
def floatOfInt (n : Int) : Except Rejection Real64 :=
  let x := Real64.ofInt n
  if x.isFinite then .ok x else .error .integerTooLarge

inductive Pair where
  | ints (a b : Int)
  | floats (a b : Inexact)
  | complexes (re im re' im' : Float)

def parts : Number → Except Rejection (Float × Float)
  | int n => do return ((← floatOfInt n).toFloat, 0.0)
  | float x => .ok (x.toFloat, 0.0)
  | complex re im => .ok (re, im)

def pair : Number → Number → Except Rejection Pair
  | int n, int m => .ok (.ints n m)
  | int n, float y => do return .floats (.real (← floatOfInt n)) y
  | float x, int m => do return .floats x (.real (← floatOfInt m))
  | float x, float y => .ok (.floats x y)
  | a, b => do
    let (re, im) ← a.parts
    let (re', im') ← b.parts
    return .complexes re im re' im'

def add (a b : Number) : Except Rejection Number := do
  match ← pair a b with
  | .ints n m => return int (n + m)
  | .floats x y => return float (Inexact.combine (· + ·) x y)
  | .complexes re im re' im' => return complex (re + re') (im + im')

def subtract (a b : Number) : Except Rejection Number := do
  match ← pair a b with
  | .ints n m => return int (n - m)
  | .floats x y => return float (Inexact.combine (· - ·) x y)
  | .complexes re im re' im' => return complex (re - re') (im - im')

def complexProduct (re im re' im' : Float) : Float × Float :=
  (re * re' - im * im', re * im' + im * re')

def multiply (a b : Number) : Except Rejection Number := do
  match ← pair a b with
  | .ints n m => return int (n * m)
  | .floats x y => return float (Inexact.combine (· * ·) x y)
  | .complexes re im re' im' =>
    let (re, im) := complexProduct re im re' im'
    return complex re im

def quotient (n m : Int) : Except Rejection Real64 :=
  if m = 0 then .error .divisionByZero
  else
    let x := Real64.ofQuotient ((n < 0) != (m < 0)) n.natAbs m.natAbs
    if x.isFinite then .ok x else .error .quotientTooLarge

/-- Divides through by the larger part of the divisor; none if it is zero. -/
def complexQuotient? (re im re' im' : Float) : Option (Float × Float) :=
  if im'.abs ≤ re'.abs then
    if re' == 0.0 then none
    else
      let ratio := im' / re'
      let scale := re' + im' * ratio
      some ((re + im * ratio) / scale, (im - re * ratio) / scale)
  else if re'.abs ≤ im'.abs then
    let ratio := re' / im'
    let scale := re' * ratio + im'
    some ((re * ratio + im) / scale, (im * ratio - re) / scale)
  else some (notANumber, notANumber)

def divide (a b : Number) : Except Rejection Number := do
  match ← pair a b with
  | .ints n m => return float (.real (← quotient n m))
  | .floats x y =>
    if y.isZero then throw .floatDivisionByZero
    else return float (Inexact.combine (· / ·) x y)
  | .complexes re im re' im' =>
    match complexQuotient? re im re' im' with
    | some (re, im) => return complex re im
    | none => throw .complexDivisionByZero

end MiniLisp.Number
