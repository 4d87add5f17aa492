import MiniLisp.Value.Equality

/-!
The order of values. Numbers order by exact value, a NaN being in no order to any. Sequences order
by their first items that are not alike, else by length.
-/

namespace MiniLisp

inductive Comparison where
  | less
  | greater
  | lessEqual
  | greaterEqual
  deriving DecidableEq

namespace Comparison

def symbol : Comparison → String
  | less => "<"
  | greater => ">"
  | lessEqual => "<="
  | greaterEqual => ">="

def onLengths : Comparison → Nat → Nat → Bool
  | less, n, m => n < m
  | greater, n, m => m < n
  | lessEqual, n, m => n ≤ m
  | greaterEqual, n, m => m ≤ n

def onPositions : Comparison → Real64.Position → Real64.Position → Bool
  | less, a, b => a.before b
  | greater, a, b => b.before a
  | lessEqual, a, b => !b.before a
  | greaterEqual, a, b => !a.before b

def onCoordinates (comparison : Comparison) : Value.Coordinate → Value.Coordinate → Bool
  | some a, some b => comparison.onPositions a b
  | _, _ => false

end Comparison

namespace Value

def firstDifference? (depth : Nat) :
    List Value → List Value → Except Failure (Option (Value × Value))
  | a :: as, b :: bs => do
    if ← (if identical a b then .ok true else alike depth a b) then firstDifference? depth as bs
    else .ok (some (a, b))
  | _, _ => .ok none

def compare (comparison : Comparison) (depth : Nat) (a b : Value) : Except Failure Bool :=
  match depth with
  | 0 => .error .depthExceeded
  | depth + 1 =>
    match a.realCoordinate?, b.realCoordinate? with
    | some x, some y => .ok (comparison.onCoordinates x y)
    | _, _ =>
      match a.sequence?, b.sequence? with
      | some (kind, as), some (kind', bs) =>
        if kind = kind' then do
          match ← firstDifference? depth as bs with
          | some (x, y) => compare comparison depth x y
          | none => .ok (comparison.onLengths as.length bs.length)
        else .error (.unreported (.ordering comparison.symbol a.typeName b.typeName))
      | _, _ => .error (.unreported (.ordering comparison.symbol a.typeName b.typeName))

end Value

end MiniLisp
