import MiniLisp.Failure
import MiniLisp.Number.Inexact
import MiniLisp.Real64.Rounding
import MiniLisp.Value

namespace MiniLisp

inductive Number where
  | int (n : Int)
  | float (x : Inexact)
  | complex (re im : Float)

namespace Value

def ofBool (b : Bool) : Int := if b then 1 else 0

def number? : Value → Option Number
  | int n => some (.int n)
  | real x => some (.float (.real x))
  | nan _ negative => some (.float (.nan negative))
  | complex _ re im => some (.complex re im)
  | bool b => some (.int (ofBool b))
  | _ => none

def integer? : Value → Option Int
  | int n => some n
  | bool b => some (ofBool b)
  | _ => none

/-- A coordinate of a number; a NaN has no position. -/
abbrev Coordinate := Option Real64.Position

def coordinateOf (x : Float) : Coordinate := (Real64.ofFloat? x).map Real64.position

def realCoordinate? : Value → Option Coordinate
  | int n => some (some (.ofInt n))
  | real x => some (some x.position)
  | nan .. => some none
  | bool b => some (some (.ofInt (ofBool b)))
  | _ => none

def coordinates? : Value → Option (Coordinate × Coordinate)
  | complex _ re im => some (coordinateOf re, coordinateOf im)
  | value => value.realCoordinate?.map fun re => (re, some (.ofInt 0))

/-- Positions that are equal; what has no position equals nothing. -/
def Coordinate.agrees : Coordinate → Coordinate → Bool
  | some a, some b => a = b
  | _, _ => false

/-- Whether two values are numbers of the same exact value; none if they are not both numbers. -/
def sameNumber? (a b : Value) : Option Bool :=
  match a.coordinates?, b.coordinates? with
  | some (re, im), some (re', im') => some (Coordinate.agrees re re' && Coordinate.agrees im im')
  | _, _ => none

end Value

end MiniLisp
