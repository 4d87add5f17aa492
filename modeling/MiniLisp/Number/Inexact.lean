import MiniLisp.Real64

/-!
Inexact reals, which are numbers of 64 bits or NaN. A NaN has a sign. A NaN that is given passes
through an operation; one that arises anew is negative.
-/

namespace MiniLisp

inductive Inexact where
  | real (x : Real64)
  | nan (negative : Bool)
  deriving DecidableEq

namespace Inexact

def ofFloat (x : Float) : Inexact :=
  match Real64.ofFloat? x with
  | some y => real y
  | none => nan true

def toFloat : Inexact → Float
  | real x => x.toFloat
  | nan _ => notANumber

def negative : Inexact → Bool
  | real x => x.negative
  | nan negative => negative

def withSign (negative : Bool) : Inexact → Inexact
  | real x => real { x with negative }
  | nan _ => nan negative

def isZero : Inexact → Bool
  | real x => x.magnitude = 0
  | nan _ => false

def map (operation : Float → Float) : Inexact → Inexact
  | real x => ofFloat (operation x.toFloat)
  | nan negative => nan negative

/-- What two operands give, where of two NaNs the first passes through. -/
def combineBy (operation : Real64 → Real64 → Inexact) : Inexact → Inexact → Inexact
  | nan negative, _ => nan negative
  | real _, nan negative => nan negative
  | real x, real y => operation x y

def combine (operation : Float → Float → Float) : Inexact → Inexact → Inexact :=
  combineBy fun x y => ofFloat (operation x.toFloat y.toFloat)

end Inexact

end MiniLisp
