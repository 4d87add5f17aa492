import MiniLisp.Library.Integers
import MiniLisp.Library.Reals
import MiniLisp.Value.Order

namespace MiniLisp

namespace Library

def extremum (comparison : Comparison) (depth : Nat) : List Value → Except Failure Answer
  | [] => .error (.unreported (.unexplained .value))
  | first :: rest =>
    let better (best value : Value) : Except Failure Value := do
      return if ← Value.compare comparison depth value best then value else best
    (rest.foldlM better first).map .given

def extremumOf (comparison : Comparison) (depth : Nat) : List Value → Except Failure Answer
  | [] => .error (.unreported (.unexplained .type))
  | [only] =>
    match only.sequence? with
    | some (_, items) => extremum comparison depth items
    | none => .error (.unreported (.unexplained .type))
  | values => extremum comparison depth values

/-- Multiplies an answer by a value. A tuple that its factor leaves as it is stays the answer. -/
def multiplyAnswer (product : Answer) (factor : Value) : Except Failure Answer := do
  match product, ← Value.multiply (product.toValue 0).1 factor with
  | .tuple items, .given _ => return .tuple items
  | _, answer => return answer

def product : List Value → Except Failure Answer
  | [value] =>
    match value.sequence? with
    | some (_, items) => items.foldlM multiplyAnswer (.number (.int 1))
    | none => .error (.unreported (.unexplained .type))
  | _ => .error (.unreported (.unexplained .type))

def degreesPerRadian : Float := 180.0 / Special.pi

def radiansPerDegree : Float := Special.pi / 180.0

end Library

namespace LibraryFunction

open Library

def compute (f : LibraryFunction) (arguments : List Value) : Except Rejection Scalar :=
  match f, arguments with
  | acos, [x] => unary Float.acos .value x
  | acosh, [x] => unary Float.acosh .value x
  | asin, [x] => unary Float.asin .value x
  | asinh, [x] => unary Float.asinh .value x
  | atan, [x] => unary Float.atan .value x
  | atanh, [x] => unary Float.atanh .value x
  | cbrt, [x] => unary Float.cbrt .value x
  | cos, [x] => unary Float.cos .value x
  | cosh, [x] => unary Float.cosh .overflow x
  | degrees, [x] => multiple degreesPerRadian x
  | erf, [x] => unary Special.erf .value x
  | erfc, [x] => unary Special.erfc .value x
  | exp, [x] => unary Float.exp .overflow x
  | exp2, [x] => unary Float.exp2 .overflow x
  | expm1, [x] => unary Special.expm1 .overflow x
  | fabs, [x] => do return ofInexact ((← realArgument x).withSign false)
  | log1p, [x] => unary Special.log1p .value x
  | radians, [x] => multiple radiansPerDegree x
  | sin, [x] => unary Float.sin .value x
  | sinh, [x] => unary Float.sinh .overflow x
  | sqrt, [x] => unary Float.sqrt .value x
  | tan, [x] => unary Float.tan .value x
  | tanh, [x] => unary Float.tanh .value x
  | LibraryFunction.gamma, [x] => Library.gamma x
  | LibraryFunction.lgamma, [x] => Library.lgamma x
  | ulp, [x] => lastPlace x
  | LibraryFunction.log, xs => Library.log xs
  | log2, [x] => logarithmOf Float.log2 x
  | log10, [x] => logarithmOf Float.log10 x
  | atan2, [y, x] => angle y x
  | copysign, [x, y] => withSignOf x y
  | fmod, [x, y] => remainderBy Real64.truncatedRemainder x y
  | remainder, [x, y] => remainderBy Real64.nearestRemainder x y
  | nextafter, [x, y] => neighbour x y
  | pow, [x, y] => power x y
  | ldexp, [x, n] => scaled x n
  | frexp, [x] => significandAndExponent x
  | modf, [x] => fractionAndWhole x
  | isfinite, [x] => classify Float.isFinite x
  | isinf, [x] => classify Float.isInf x
  | isnan, [x] => classify Float.isNaN x
  | isclose, [x, y] => isClose x y
  | hypot, xs => hypotenuse xs
  | dist, [p, q] => distance p q
  | fsum, [xs] => sum xs
  | ceil, [x] => toInteger Real64.ceil x
  | floor, [x] => toInteger Real64.floor x
  | trunc, [x] => toInteger Real64.truncate x
  | LibraryFunction.factorial, [n] => factorialOf n
  | isqrt, [n] => do return ofInt (integerRoot (← naturalArgument n))
  | comb, [n, k] => combinations n k
  | perm, [n] | perm, [n, .nothing] => factorialOf n
  | perm, [n, k] => permutations n k
  | gcd, xs => greatestDivisor xs
  | lcm, xs => leastMultiple xs
  | abs, [x] => absolute x
  | round, [x] | round, [x, .nothing] => toInteger Real64.nearestInteger x
  | round, [x, places] => Library.roundPlaces x places
  | _, _ => reject .type

def unexplained : Failure → Failure
  | .unreported reason => .unreported (.unexplained reason.kind)
  | failure => failure

def answer (depth : Nat) (f : LibraryFunction) (arguments : List Value) : Except Failure Answer :=
  (match f with
    | max => extremumOf .greater depth arguments
    | min => extremumOf .less depth arguments
    | prod => product arguments
    | f => ((f.compute arguments).map Answer.scalar).mapError .unreported).mapError unexplained

end LibraryFunction

end MiniLisp
