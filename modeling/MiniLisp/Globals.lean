import MiniLisp.Real64.Rounding
import MiniLisp.Store

/-!
The bindings that every session starts from: the numeric library, then the procedures of the
language and its two truth values. A name bound twice keeps its first place.
-/

namespace MiniLisp

/-- A positive constant by its digits, the last fifteen of which are behind the point. -/
def constant (digits : Nat) : Value := .real (.ofDecimal false digits (-15))

def libraryBindings : Bindings :=
  LibraryFunction.all.map (fun f => (f.name, .primitive (.function f))) ++
    [("pi", constant 3141592653589793), ("e", constant 2718281828459045),
      ("tau", constant 6283185307179586), ("inf", .real (.infinity false)),
      ("nan", .nan Value.sharedNaN false)] ++
    [LibraryFunction.abs, .max, .min, .round].map fun f => (f.name, .primitive (.function f))

def procedures : List (String × Primitive) :=
  [("+", .operation .add), ("-", .operation .subtract), ("*", .operation .multiply),
    ("/", .operation .divide), (">", .operation .greater), ("<", .operation .less),
    (">=", .operation .greaterEqual), ("<=", .operation .lessEqual),
    ("=", .operation .equalNumber), ("append", .operation .append), ("apply", .apply),
    ("begin", .operation .begin), ("car", .operation .car), ("cdr", .operation .cdr),
    ("cons", .operation .cons), ("eq?", .operation .same), ("equal?", .operation .equal),
    ("expt", .operation .power), ("length", .operation .length), ("list", .operation .list),
    ("list?", .operation .isList), ("map", .map), ("not", .operation .negate),
    ("null?", .operation .isNull), ("number?", .operation .isNumber), ("print", .print),
    ("procedure?", .operation .isProcedure), ("symbol?", .operation .isSymbol)]

def languageBindings : Bindings :=
  procedures.map (fun (name, p) => (name, .primitive p)) ++
    [("pi", constant 3141592653589793), ("#t", .bool true), ("#f", .bool false)]

def standardBindings : Bindings :=
  languageBindings.foldl (fun bindings (name, value) => bindings.set name value) libraryBindings

def Store.pushStandard (store : Store) : FrameId × Store := store.push ⟨standardBindings, none⟩

end MiniLisp
