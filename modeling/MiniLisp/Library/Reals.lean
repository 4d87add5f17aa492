import MiniLisp.Library.Argument
import MiniLisp.Library.Sum
import MiniLisp.Number.Special
import MiniLisp.Real64.Exact

namespace MiniLisp.Library

/-- Applies a function of one float. No value is a NaN where the argument is none; an infinity
where the argument is finite is rejected as the kind given. -/
def unary (function : Float → Float) (onInfinity : RejectionKind) (value : Value) :
    Except Rejection Scalar := do
  match ← realArgument value with
  | .nan negative => return ofInexact (.nan negative)
  | .real x =>
    match Real64.ofFloat? (function x.toFloat) with
    | none => reject .value
    | some y => if !y.isFinite && x.isFinite then reject onInfinity else return ofReal y

def gamma (value : Value) : Except Rejection Scalar := do
  let x ← realArgument value
  unary Special.gamma (if x.isZero then .value else .overflow) value

def lgamma (value : Value) : Except Rejection Scalar := do
  let x := (← realArgument value).toFloat
  unary Special.lgamma (if x ≤ 0.0 && x == x.floor then .value else .overflow) value

def multiple (factor : Float) (value : Value) : Except Rejection Scalar := do
  return ofInexact ((← realArgument value).map (· * factor))

/-- The significand of a positive integer as a float from a half up to one, and its exponent. -/
def integerSignificand (n : Nat) : Float × Int :=
  let bits := n.log2 + 1
  let x := Real64.ofQuotient false n (Nat.pow 2 bits)
  if x.units = Real64.one then (0.5, bits + 1) else (x.toFloat, bits)

def logarithm (function : Float → Float) (value : Value) : Except Rejection Inexact :=
  match value.number? with
  | some (.int n) =>
    if n ≤ 0 then reject .value
    else match Number.floatOfInt n with
      | .ok x => .ok (.ofFloat (function x.toFloat))
      | .error _ =>
        let (significand, exponent) := integerSignificand n.toNat
        .ok (.ofFloat (function significand + function 2.0 * Float.ofInt exponent))
  | some (.float x) => if x.toFloat ≤ 0.0 then reject .value else .ok (x.map function)
  | _ => reject .type

def logarithmOf (function : Float → Float) (value : Value) : Except Rejection Scalar := do
  return ofInexact (← logarithm function value)

def log : List Value → Except Rejection Scalar
  | [x] => logarithmOf Float.log x
  | [x, base] => do
    let y ← logarithm Float.log x
    let scale ← logarithm Float.log base
    if scale.isZero then reject .zeroDivision
    else return ofInexact (Inexact.combine (· / ·) y scale)
  | _ => reject .type

def withSignOf (a b : Value) : Except Rejection Scalar := do
  let x ← realArgument a
  return ofInexact (x.withSign (← realArgument b).negative)

/-- The angle of a point, given its height first; a positive NaN if a coordinate is a NaN. -/
def angle (a b : Value) : Except Rejection Scalar := do
  match ← realArgument a, ← realArgument b with
  | .real y, .real x => return ofInexact (.ofFloat (y.toFloat.atan2 x.toFloat))
  | _, _ => return ofInexact (.nan false)

/-- A remainder, by a rule for finite reals. Nothing has a remainder by zero and an infinity has
none; by an infinity a number leaves itself. -/
def remainderBy (rule : Real64 → Real64 → Real64) (a b : Value) : Except Rejection Scalar := do
  match ← realArgument a, ← realArgument b with
  | .real x, .real y =>
    if !x.isFinite || y.units = 0 then reject .value
    else if !y.isFinite then return ofReal x
    else return ofReal (rule x y)
  | x, y => return ofInexact (x.combineBy (fun x _ => .real x) y)

/-- Anything to the power zero is one, and so is one to any power; else a NaN passes through. -/
def power (a b : Value) : Except Rejection Scalar := do
  match ← realArgument a, ← realArgument b with
  | .real x, .real y =>
    match Real64.ofFloat? (x.toFloat.pow y.toFloat) with
    | none => reject .value
    | some z =>
      if z.isFinite || !x.isFinite || !y.isFinite then return ofReal z
      else reject (if x.magnitude = 0 then .value else .overflow)
  | x, y =>
    if y.isZero || x.toFloat == 1.0 then return ofInexact (.ofFloat 1.0)
    else return ofInexact (x.combineBy (fun x _ => .real x) y)

def neighbour (a b : Value) : Except Rejection Scalar := do
  match ← realArgument a, ← realArgument b with
  | .real x, .real y => return ofReal (x.next y)
  | x, y => return ofInexact (y.combineBy (fun y _ => .real y) x)

/-- The distance from a float to the next one away from zero, or toward it where there is none. -/
def lastPlace (value : Value) : Except Rejection Scalar := do
  match ← realArgument value with
  | .nan negative => return ofInexact (.nan negative)
  | .real x =>
    let size := { x with negative := false }
    let above := size.next (.infinity false)
    if !x.isFinite then return ofReal size
    else if above.isFinite then return ofInexact (.ofFloat (above.toFloat - size.toFloat))
    else return ofInexact (.ofFloat (size.toFloat - (size.next (.infinity true)).toFloat))

/-- A float times a power of two; exponents past 5000 leave no finite number but zero. -/
def scaled (value exponent : Value) : Except Rejection Scalar := do
  let x ← realArgument value
  let exponent ← integerArgument exponent
  match x with
  | .nan negative => return ofInexact (.nan negative)
  | .real x =>
    if x.units = 0 || !x.isFinite then return ofReal x
    else
      let y := x.scale (max (-5000) (min exponent 5000))
      if y.isFinite then return ofReal y else reject .overflow

/-- The significand of a float from a half up to one, and its exponent. -/
def significandAndExponent (value : Value) : Except Rejection Scalar := do
  match ← realArgument value with
  | .nan negative => return .pair (.float (.nan negative)) (.int 0)
  | .real x =>
    if x.isFinite then
      return .pair (.float (.real (x.scale (-x.binaryExponent)))) (.int x.binaryExponent)
    else return .pair (.float (.real x)) (.int 0)

def fractionAndWhole (value : Value) : Except Rejection Scalar := do
  match ← realArgument value with
  | .nan negative => return .pair (.float (.nan negative)) (.float (.nan negative))
  | .real x =>
    if x.isFinite then return .pair (.float (.real x.fraction)) (.float (.real x.whole))
    else return .pair (.float (.real (.ofMagnitude x.negative 0))) (.float (.real x))

/-- Equal, or different by no more than the larger one times `1e-9`. -/
def isClose (a b : Value) : Except Rejection Scalar := do
  let x := (← realArgument a).toFloat
  let y := (← realArgument b).toFloat
  if x == y then return .truth true
  else if x.isInf || y.isInf then return .truth false
  else
    let difference := (y - x).abs
    return .truth (difference ≤ (1e-9 * y).abs || difference ≤ (1e-9 * x).abs)

def classify (test : Float → Bool) (value : Value) : Except Rejection Scalar := do
  return .truth (test (← realArgument value).toFloat)

def hypotenuse (values : List Value) : Except Rejection Scalar := do
  return ofInexact (euclideanLength ((← values.mapM realArgument).map Inexact.toFloat))

def distance (p q : Value) : Except Rejection Scalar := do
  let ps ← itemsArgument p
  let qs ← itemsArgument q
  if ps.length ≠ qs.length then reject .value
  else
    let differences ← (ps.zip qs).mapM fun (a, b) => do
      return (← realArgument a).toFloat - (← realArgument b).toFloat
    return ofInexact (euclideanLength differences)

def sumReported {α : Type} : Except SumFailure α → Except Rejection α
  | .ok x => .ok x
  | .error .overflow => reject .overflow
  | .error .undefined => reject .value

def sum (value : Value) : Except Rejection Scalar := do
  let items ← itemsArgument value
  let sums ← items.foldlM (fun sums item => do sumReported (sums.add (← realArgument item)))
    PartialSums.empty
  return ofInexact (← sumReported sums.total)

def absolute (value : Value) : Except Rejection Scalar :=
  match value.number? with
  | some (.int n) => .ok (ofInt n.natAbs)
  | some (.float x) => .ok (ofInexact (x.withSign false))
  | some (.complex re im) =>
    match Real64.ofFloat? (modulus re im) with
    | none => .ok (ofInexact (.nan false))
    | some size =>
      if !size.isFinite && re.isFinite && im.isFinite then reject .overflow
      else .ok (ofReal size)
  | none => reject .type

end MiniLisp.Library
