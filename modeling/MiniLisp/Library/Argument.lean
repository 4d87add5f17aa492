import MiniLisp.Value.Arithmetic

namespace MiniLisp.Library

def reject {α : Type} (kind : RejectionKind) : Except Rejection α := .error (.unexplained kind)

def realArgument (value : Value) : Except Rejection Inexact :=
  match value.number? with
  | some (.int n) => (Number.floatOfInt n).map .real
  | some (.float x) => .ok x
  | _ => reject .type

def integerArgument (value : Value) : Except Rejection Int :=
  match value.integer? with
  | some n => .ok n
  | none => reject .type

def naturalArgument (value : Value) : Except Rejection Nat := do
  let n ← integerArgument value
  if n < 0 then reject .value else return n.toNat

def itemsArgument (value : Value) : Except Rejection (List Value) :=
  match value.sequence? with
  | some (_, items) => .ok items
  | none => reject .type

def ofInexact (x : Inexact) : Scalar := .number (.float x)

def ofReal (x : Real64) : Scalar := ofInexact (.real x)

def ofInt (n : Int) : Scalar := .number (.int n)

end MiniLisp.Library
