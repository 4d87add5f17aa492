import MiniLisp.Value.Arithmetic
import MiniLisp.Value.Order
import MiniLisp.Value.List

namespace MiniLisp

def misfit (parameters : List String) (given : Nat) : Rejection :=
  if parameters.length < given then .surplus parameters.length given
  else .missing (parameters.drop given)

namespace Operation

def answer (depth : Nat) (operation : Operation) (arguments : List Value) : Except Failure Answer :=
  match operation, arguments with
  | .add, [x, y] => (x.add y).mapError .unreported
  | .subtract, [x, y] => (x.subtract y).mapError .unreported
  | .multiply, [x, y] => x.multiply y
  | .divide, [x, y] => (x.divide y).mapError .unreported
  | .power, [x, y] => (x.power y).mapError .unreported
  | .greater, [x, y] => (Value.compare .greater depth x y).map .truth
  | .less, [x, y] => (Value.compare .less depth x y).map .truth
  | .greaterEqual, [x, y] => (Value.compare .greaterEqual depth x y).map .truth
  | .lessEqual, [x, y] => (Value.compare .lessEqual depth x y).map .truth
  | .equalNumber, [x, y] => (Value.alike depth x y).map .truth
  | .append, [x, y] => Value.append x y
  | .begin, values => .ok (Value.last values)
  | .car, [x] => Value.car depth x
  | .cdr, [x] => Value.cdr depth x
  | .cons, [x, y] => Value.cons depth x y
  | .same, [x, y] => .ok (.truth (x.same y))
  | .equal, [x, y] => (Value.equal depth x y).map .truth
  | .length, [x] => Value.length x
  | .list, items => .ok (.list items)
  | .isList, [x] => .ok (.truth x.isList)
  | .negate, [x] => .ok (.truth !x.isTrue)
  | .isNull, [x] => .ok (.truth x.isNull)
  | .isNumber, [x] => .ok (.truth x.isNumber)
  | .isProcedure, [x] => .ok (.truth x.isProcedure)
  | .isSymbol, [x] => .ok (.truth x.isSymbol)
  | operation, values => .error (.unreported (misfit operation.parameters values.length))

end Operation

end MiniLisp
