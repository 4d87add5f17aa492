import MiniLisp.Number.Inexact
import MiniLisp.Real64.Exact

namespace MiniLisp

/-- A sum of squares that starts at one, so that no term exceeds it. Three sums hold what rounding
left out of terms of three sizes. -/
structure SquareSum where
  sum : Float
  large : Float
  middle : Float
  small : Float

namespace SquareSum

def start : SquareSum := ⟨1.0, 0.0, 0.0, 0.0⟩

def total (squares : SquareSum) : Float :=
  squares.sum - 1.0 + (squares.large + squares.middle + squares.small)

/-- What rounding leaves out of a sum when a smaller term is added to it. -/
def lost (sum term : Float) : Float := (sum - (sum + term)) + term

def addLarge (term : Float) (squares : SquareSum) : SquareSum :=
  { squares with
    sum := squares.sum + term
    large := squares.large + lost squares.sum term }

def addMiddle (term : Float) (squares : SquareSum) : SquareSum :=
  { squares with
    sum := squares.sum + term
    middle := squares.middle + lost squares.sum term }

def halves (x : Float) : Float × Float :=
  let shifted := x * 134217729.0
  let high := shifted - (shifted - x)
  (high, x - high)

def addSquare (squares : SquareSum) (x : Float) : SquareSum :=
  let (high, low) := halves x
  let squares := (squares.addLarge (high * high)).addMiddle (2.0 * high * low)
  { squares with small := squares.small + low * low }

def subtractSquare (squares : SquareSum) (x : Float) : SquareSum :=
  let (high, low) := halves x
  let squares := (squares.addLarge (-high * high)).addMiddle (-2.0 * high * low)
  let term := -low * low
  { squares with
    sum := squares.sum + term
    small := squares.small + lost squares.sum term }

def root (squares : SquareSum) : Float :=
  let root := squares.total.sqrt
  root + (squares.subtractSquare root).total / (2.0 * root)

end SquareSum

def dividedLength (greatest : Float) (coordinates : List Float) : Float :=
  let squares := coordinates.foldl (fun squares x =>
    let ratio := x / greatest
    SquareSum.addLarge (ratio * ratio) squares) SquareSum.start
  greatest * (squares.sum - 1.0 + squares.large).sqrt

/-- The length of coordinates that are finite and not negative. They are scaled by a power of two,
except where that power is too large. -/
def finiteLength (coordinates : List Float) : Float :=
  let greatest := coordinates.foldl (fun greatest x => if greatest < x then x else greatest) 0.0
  let exponent := ((Real64.ofFloat? greatest).map Real64.binaryExponent).getD 0
  if greatest == 0.0 || coordinates.length ≤ 1 then greatest
  else if exponent < -1023 then dividedLength greatest coordinates
  else
    let scale := Float.scaleB 1.0 (-exponent)
    (coordinates.foldl (fun squares x => squares.addSquare (x * scale)) SquareSum.start).root
      / scale

def euclideanLength (coordinates : List Float) : Inexact :=
  if coordinates.any Float.isInf then .real (.infinity false)
  else if coordinates.any Float.isNaN then .nan false
  else .ofFloat (finiteLength (coordinates.map Float.abs))

/-- The length of two coordinates, the larger first, both away from the ends of the range: the
root of the sum of squares, corrected once. -/
def correctedLength (x y : Float) : Float :=
  let length := (x * x + y * y).sqrt
  let correction :=
    if length ≤ 2.0 * y then
      let beyond := length - y
      x * (2.0 * beyond - x) + (beyond - 2.0 * (x - y)) * beyond
    else
      let beyond := length - x
      2.0 * beyond * (x - 2.0 * y) + ((4.0 * beyond - y) * y + beyond * beyond)
  length - correction / (2.0 * length)

/-- The absolute value of a complex number. Parts near the ends of the range are scaled, and a
part below the last place of the other hardly counts. -/
def modulus (re im : Float) : Float :=
  if re.isInf || im.isInf then infinite
  else if re.isNaN || im.isNaN then notANumber
  else
    let (x, y) := if re.abs < im.abs then (im.abs, re.abs) else (re.abs, im.abs)
    let lastPlace : Float := 5.551115123125783e-17
    let scale : Float := 2.409919865102884e-181
    if 6.703903964971299e+153 < x then
      if y ≤ x * lastPlace then x + y else correctedLength (x * scale) (y * scale) / scale
    else if y < 6.717876107567089e-139 then
      if y / lastPlace ≤ x then x + y else correctedLength (x / scale) (y / scale) * scale
    else if y ≤ x * lastPlace then x + y
    else correctedLength x y

end MiniLisp
