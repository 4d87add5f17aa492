import MiniLisp.Number.Inexact

/-!
Sums of floats without loss. The sum so far is held as partial sums that do not overlap, so that
rounding happens once, at the end.
-/

namespace MiniLisp

inductive SumFailure where
  /-- A partial sum of finite terms is infinite. -/
  | overflow
  /-- Infinities of both signs are among the terms. -/
  | undefined
  deriving DecidableEq

structure PartialSums where
  /-- Smallest first. -/
  partials : List Float
  /-- The sum of the terms that are infinite or NaN, if there are any. -/
  special : Option Inexact
  rising : Bool
  falling : Bool

namespace PartialSums

def empty : PartialSums := ⟨[], none, false, false⟩

/-- The rounded sum of two floats, and what rounding left out. -/
def exactSum (x y : Float) : Float × Float :=
  let (large, small) := if x.abs < y.abs then (y, x) else (x, y)
  let sum := large + small
  (sum, small - (sum - large))

def absorb (x : Float) : List Float → List Float × Float
  | [] => ([], x)
  | y :: rest =>
    let (sum, error) := exactSum x y
    let (partials, top) := absorb sum rest
    (if error == 0.0 then partials else error :: partials, top)

def addSpecial (sums : PartialSums) (x : Inexact) : PartialSums :=
  let special := some ((sums.special.map fun sum => sum.combine (· + ·) x).getD x)
  match x with
  | .nan _ => ⟨[], special, sums.rising, sums.falling⟩
  | .real y => ⟨[], special, sums.rising || !y.negative, sums.falling || y.negative⟩

def add (sums : PartialSums) (x : Inexact) : Except SumFailure PartialSums :=
  match x with
  | .nan _ => .ok (sums.addSpecial x)
  | .real y =>
    if !y.isFinite then .ok (sums.addSpecial x)
    else
      let (partials, top) := absorb y.toFloat sums.partials
      if top == 0.0 then .ok { sums with partials }
      else if top.isFinite then .ok { sums with partials := partials ++ [top] }
      else .error .overflow

/-- The rounded sum of partial sums, largest first. What is left out decides a tie together with
the partial sum after it. -/
def roundedTotal (total : Float) : List Float → Float
  | [] => total
  | y :: rest =>
    let sum := total + y
    let error := y - (sum - total)
    if error == 0.0 then roundedTotal sum rest
    else match rest with
      | z :: _ =>
        if (error < 0.0 && z < 0.0) || (0.0 < error && 0.0 < z) then
          let twice := error * 2.0
          let beyond := sum + twice
          if twice == beyond - sum then beyond else sum
        else sum
      | [] => sum

def total (sums : PartialSums) : Except SumFailure Inexact :=
  match sums.special with
  | some sum =>
    if sums.rising && sums.falling then .error .undefined else .ok sum
  | none =>
    match sums.partials.reverse with
    | [] => .ok (.ofFloat 0.0)
    | top :: rest => .ok (.ofFloat (roundedTotal top rest))

end PartialSums

end MiniLisp
