import MiniLisp.Value.Number

/-!
What a primitive answers with, before it becomes an object. An answer is new, except one that was
given to the primitive, which keeps its identity.
-/

namespace MiniLisp

inductive Scalar where
  | number (n : Number)
  | truth (b : Bool)
  | pair (first second : Number)

inductive Answer where
  | scalar (answer : Scalar)
  | nothing
  /-- An argument, or an item of one. -/
  | given (value : Value)
  | list (items : List Value)
  | tuple (items : List Value)

def Number.toValue (next : ObjectId) : Number → Value × ObjectId
  | int n => (.int n, next)
  | float (.real x) => (.real x, next)
  | float (.nan negative) => (.nan next negative, next + 1)
  | complex re im => (.complex next re im, next + 1)

def Scalar.toValue (next : ObjectId) : Scalar → Value × ObjectId
  | number n => n.toValue next
  | truth b => (.bool b, next)
  | pair first second =>
    let (a, next) := first.toValue next
    let (b, next) := second.toValue next
    (.tuple next [a, b], next + 1)

def Answer.toValue (next : ObjectId) : Answer → Value × ObjectId
  | scalar answer => answer.toValue next
  | nothing => (.nothing, next)
  | given value => (value, next)
  | list items => (.list next items, next + 1)
  | tuple [] => (.tuple Value.emptyTuple [], next)
  | tuple items => (.tuple next items, next + 1)

def Answer.truth (b : Bool) : Answer := scalar (.truth b)

def Answer.number (n : Number) : Answer := scalar (.number n)

end MiniLisp
