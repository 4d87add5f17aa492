import MiniLisp.Value.Answer
import MiniLisp.Value.Equality
import MiniLisp.Value.Printer

namespace MiniLisp.Value

def refuse {α : Type} (depth : Nat) (sentence : String) (value : Value) : Except Failure α := do
  throw (.unreported (.expected sentence (← value.text .plain depth)))

def append (x y : Value) : Except Failure Answer :=
  match x, y with
  | list _ xs, list _ ys => .ok (.list (xs ++ ys))
  | _, _ => .error (.unreported .expectedLists)

def car (depth : Nat) : Value → Except Failure Answer
  | list _ [] => .error (.unreported .emptyList)
  | list _ (first :: _) => .ok (.given first)
  | value => refuse depth "car expects a list" value

def cdr (depth : Nat) : Value → Except Failure Answer
  | list _ items => .ok (.list (items.drop 1))
  | value => refuse depth "cdr expects a list" value

def cons (depth : Nat) (first : Value) : Value → Except Failure Answer
  | list _ items => .ok (.list (first :: items))
  | value => refuse depth "cons expects a list as its second argument" value

def length (value : Value) : Except Failure Answer :=
  match value.sequence? with
  | some (_, items) => .ok (.number (.int items.length))
  | none => .error (.unreported (.noLength value.typeName))

def last (values : List Value) : Answer :=
  match values.getLast? with
  | some value => .given value
  | none => .nothing

def isList : Value → Bool
  | list .. => true
  | _ => false

def isNull : Value → Bool
  | list _ [] => true
  | _ => false

def isSymbol : Value → Bool
  | symbol _ => true
  | _ => false

end MiniLisp.Value
