import MiniLisp.Real64.Rounding

/-!
The text of a number of 64 bits: the fewest digits that read back as the number, and of those the
nearest to it. Positional from `0.0001` up to below `10 ^ 16`, with an exponent elsewhere.
-/

namespace MiniLisp.Real64

/-- A positive decimal `digits * 10 ^ exponent`. -/
structure Digits where
  digits : Nat
  exponent : Int
  deriving DecidableEq

def leadingExponent (numerator denominator : Nat) : Int :=
  if denominator ≤ numerator then (decimalLength (numerator / denominator) : Int) - 1
  else -(decimalLength ((denominator - 1) / numerator) : Int)

/-- Of the two decimals of `count` digits around the number, the one that reads back as it; if
both do, the nearer. -/
def candidate? (x : Real64) (count : Nat) : Option Digits :=
  let exponent := leadingExponent x.units one - (count - 1 : Int)
  let (n, d) := if 0 ≤ exponent then (x.units, one * Nat.pow 10 exponent.toNat)
    else (x.units * Nat.pow 10 (-exponent).toNat, one)
  let below := n / d
  let readsBack (digits : Nat) : Bool := ofDecimal x.negative digits exponent = x
  let nearest := roundedQuotient n d
  if readsBack nearest then some ⟨nearest, exponent⟩
  else if readsBack below then some ⟨below, exponent⟩
  else if readsBack (below + 1) then some ⟨below + 1, exponent⟩
  else none

/-- Every finite number is an exact decimal, since `2 ^ (-1074) = 5 ^ 1074 * 10 ^ (-1074)`. -/
def exactDigits (x : Real64) : Digits := ⟨x.units * Nat.pow 5 1074, -1074⟩

/-- The fewest digits of a finite number other than zero; seventeen always suffice. -/
def shortestDigits (x : Real64) : Digits :=
  ((List.range 17).findSome? fun fewer => candidate? x (fewer + 1)).getD x.exactDigits

/-- Writes `digits * 10 ^ (order - digits.length + 1)` without an exponent. -/
def positional (digits : List Char) (order : Int) : List Char :=
  if order < 0 then '0' :: '.' :: (List.replicate (-order - 1).toNat '0' ++ digits)
  else
    let whole := order.toNat + 1
    let fraction := digits.drop whole
    digits.take whole ++ List.replicate (whole - digits.length) '0' ++
      '.' :: (if fraction.isEmpty then ['0'] else fraction)

/-- Writes one digit, a point and the other digits if there are any, and a signed exponent of at
least two digits. -/
def scientific (digits : List Char) (order : Int) : List Char :=
  let fraction := digits.drop 1
  let exponent := Nat.toDigits 10 order.natAbs
  let padded := List.replicate (2 - exponent.length) '0' ++ exponent
  digits.take 1 ++ (if fraction.isEmpty then [] else '.' :: fraction) ++
    'e' :: (if order < 0 then '-' else '+') :: padded

def magnitudeText (x : Real64) : List Char :=
  if x.magnitude = 0 then ['0', '.', '0']
  else if !x.isFinite then ['i', 'n', 'f']
  else
    let shortest := x.shortestDigits
    let digits := Nat.toDigits 10 shortest.digits
    let order := shortest.exponent + digits.length - 1
    let significant := (digits.reverse.dropWhile (· = '0')).reverse
    if -4 ≤ order && order < 16 then positional significant order
    else scientific significant order

def text (x : Real64) : String :=
  String.ofList (if x.negative then '-' :: x.magnitudeText else x.magnitudeText)

end MiniLisp.Real64
