namespace MiniLisp

inductive Operation where
  | add | subtract | multiply | divide
  | greater | less | greaterEqual | lessEqual | equalNumber
  | append | begin | car | cdr | cons | same | equal | power | length | list
  | isList | negate | isNull | isNumber | isProcedure | isSymbol
  deriving DecidableEq

inductive LibraryFunction where
  | acos | acosh | asin | asinh | atan | atan2 | atanh | cbrt | ceil | copysign | cos | cosh
  | degrees | dist | erf | erfc | exp | exp2 | expm1 | fabs | factorial | floor | fmod | frexp
  | fsum | gamma | gcd | hypot | isclose | isfinite | isinf | isnan | isqrt | lcm | ldexp | lgamma
  | log | log1p | log10 | log2 | modf | pow | radians | remainder | sin | sinh | sqrt | tan | tanh
  | trunc | prod | perm | comb | nextafter | ulp | abs | max | min | round
  deriving DecidableEq

inductive Primitive where
  | operation (operation : Operation)
  | function (function : LibraryFunction)
  | print
  | apply
  | map
  deriving DecidableEq

namespace Operation

def name : Operation → String
  | add => "add"
  | subtract => "sub"
  | multiply => "mul"
  | divide => "div"
  | greater => "gt"
  | less => "lt"
  | greaterEqual => "gte"
  | lessEqual => "lte"
  | equalNumber => "num_eq"
  | append => "append"
  | begin => "begin"
  | car => "car"
  | cdr => "cdr"
  | cons => "cons"
  | same => "is_eq"
  | equal => "is_equal"
  | power => "expt"
  | length => "length"
  | list => "make_list"
  | isList => "is_list"
  | negate => "logical_not"
  | isNull => "is_null"
  | isNumber => "is_number"
  | isProcedure => "is_procedure"
  | isSymbol => "is_symbol"

def parameters : Operation → List String
  | begin | list => []
  | car | cdr | length | isList | negate | isNull | isNumber | isProcedure | isSymbol => ["x"]
  | same | equal => ["a", "b"]
  | power => ["base", "power"]
  | _ => ["x", "y"]

end Operation

namespace LibraryFunction

def name : LibraryFunction → String
  | acos => "acos"
  | acosh => "acosh"
  | asin => "asin"
  | asinh => "asinh"
  | atan => "atan"
  | atan2 => "atan2"
  | atanh => "atanh"
  | cbrt => "cbrt"
  | ceil => "ceil"
  | copysign => "copysign"
  | cos => "cos"
  | cosh => "cosh"
  | degrees => "degrees"
  | dist => "dist"
  | erf => "erf"
  | erfc => "erfc"
  | exp => "exp"
  | exp2 => "exp2"
  | expm1 => "expm1"
  | fabs => "fabs"
  | factorial => "factorial"
  | floor => "floor"
  | fmod => "fmod"
  | frexp => "frexp"
  | fsum => "fsum"
  | gamma => "gamma"
  | gcd => "gcd"
  | hypot => "hypot"
  | isclose => "isclose"
  | isfinite => "isfinite"
  | isinf => "isinf"
  | isnan => "isnan"
  | isqrt => "isqrt"
  | lcm => "lcm"
  | ldexp => "ldexp"
  | lgamma => "lgamma"
  | log => "log"
  | log1p => "log1p"
  | log10 => "log10"
  | log2 => "log2"
  | modf => "modf"
  | pow => "pow"
  | radians => "radians"
  | remainder => "remainder"
  | sin => "sin"
  | sinh => "sinh"
  | sqrt => "sqrt"
  | tan => "tan"
  | tanh => "tanh"
  | trunc => "trunc"
  | prod => "prod"
  | perm => "perm"
  | comb => "comb"
  | nextafter => "nextafter"
  | ulp => "ulp"
  | abs => "abs"
  | max => "max"
  | min => "min"
  | round => "round"

def all : List LibraryFunction :=
  [acos, acosh, asin, asinh, atan, atan2, atanh, cbrt, ceil, copysign, cos, cosh, degrees, dist,
    erf, erfc, exp, exp2, expm1, fabs, factorial, floor, fmod, frexp, fsum, gamma, gcd, hypot,
    isclose, isfinite, isinf, isnan, isqrt, lcm, ldexp, lgamma, log, log1p, log10, log2, modf, pow,
    radians, remainder, sin, sinh, sqrt, tan, tanh, trunc, prod, perm, comb, nextafter, ulp]

end LibraryFunction

namespace Primitive

def name : Primitive → String
  | .operation op => op.name
  | .function f => f.name
  | print => "print_"
  | apply => "apply_"
  | map => "map_"

def parameters : Primitive → List String
  | .operation op => op.parameters
  | function _ => []
  | print => ["x"]
  | apply => ["proc", "args"]
  | map => ["proc", "items"]

def typeName : Primitive → String
  | function _ => "builtin_function_or_method"
  | _ => "function"

end Primitive

end MiniLisp
