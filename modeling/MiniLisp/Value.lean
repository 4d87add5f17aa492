import MiniLisp.Expr
import MiniLisp.Keyword
import MiniLisp.Primitive

/-!
Values, which are what evaluation works on and what it gives. Code is data here: the lists of a
line are list values, each an object of its own.
-/

namespace MiniLisp

/-- What tells two objects apart whose contents are the same. -/
abbrev ObjectId := Nat

abbrev FrameId := Nat

inductive Value where
  | int (n : Int)
  | real (x : Real64)
  /-- A NaN is the same as itself only. -/
  | nan (id : ObjectId) (negative : Bool)
  | complex (id : ObjectId) (re im : Float)
  | bool (b : Bool)
  | symbol (name : String)
  | list (id : ObjectId) (items : List Value)
  | tuple (id : ObjectId) (items : List Value)
  /-- What a form gives that has no value of interest. -/
  | nothing
  /-- What a parameter is bound to that got no argument. -/
  | unbound
  | closure (id : ObjectId) (parameters : List String) (body : Value) (frame : FrameId)
  | primitive (p : Primitive)

namespace Value

def sharedNaN : ObjectId := 0

/-- All tuples without items are one object. -/
def emptyTuple : ObjectId := 1

def firstFresh : ObjectId := 2

def typeName : Value → String
  | int _ => "int"
  | real _ | nan .. => "float"
  | complex .. => "complex"
  | bool _ => "bool"
  | symbol _ => "Symbol"
  | list .. => "list"
  | tuple .. => "tuple"
  | nothing => "NoneType"
  | unbound => "UnboundType"
  | closure .. => "Procedure"
  | primitive p => p.typeName

def isNumber : Value → Bool
  | int _ | real _ | nan .. | complex .. => true
  | _ => false

def isProcedure : Value → Bool
  | closure .. | primitive _ => true
  | _ => false

/-- Only `#f` counts as false. -/
def isTrue : Value → Bool
  | bool b => b
  | _ => true

def keyword? : Value → Option Keyword
  | symbol name => Keyword.ofName? name
  | _ => none

end Value

mutual

/-- An expression as a value, its lists numbered from `next` on. The next free number is returned
beside it. -/
def Expr.toValue (next : ObjectId) : Expr → Value × ObjectId
  | .int n => (.int n, next)
  | .real x => (.real x, next)
  | .symbol name => (.symbol name, next)
  | .list items =>
    let (values, next) := Expr.toValues next items
    (.list next values, next + 1)

def Expr.toValues (next : ObjectId) : List Expr → List Value × ObjectId
  | [] => ([], next)
  | item :: rest =>
    let (value, next) := item.toValue next
    let (values, next) := Expr.toValues next rest
    (value :: values, next)

end

end MiniLisp
