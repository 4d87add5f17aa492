import MiniLisp.Numeral

namespace MiniLisp

inductive Expr where
  | int (n : Int)
  | real (x : Real64)
  | symbol (name : String)
  | list (items : List Expr)

/-- A token that is no parenthesis: an integer if it spells one, else a real number if it spells
one, else the symbol of that name. -/
def Expr.ofToken (token : String) : Expr :=
  match readInteger? token.toList with
  | some n => .int n
  | none => match readDecimal? token.toList with
    | some x => .real x
    | none => .symbol token

end MiniLisp
