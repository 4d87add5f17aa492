import MiniLisp.Library.Argument
import MiniLisp.Real64.Exact

namespace MiniLisp.Library

def toInteger (rule : Real64 → Int) (value : Value) : Except Rejection Scalar :=
  match value.number? with
  | some (.int n) => .ok (ofInt n)
  | some (.float (.real x)) => if x.isFinite then .ok (ofInt (rule x)) else reject .overflow
  | some (.float (.nan _)) => reject .value
  | _ => reject .type

/-- The product of `count` numbers from `first` on, by halves. -/
def consecutiveProduct (first count : Nat) : Nat :=
  if count = 0 then 1
  else if count = 1 then first
  else
    consecutiveProduct first (count / 2) *
      consecutiveProduct (first + count / 2) (count - count / 2)

def factorial (n : Nat) : Nat := consecutiveProduct 1 n

/-- The number of ways to place `k` of `n` things in a row. -/
def arrangements (n k : Nat) : Nat := if n < k then 0 else consecutiveProduct (n - k + 1) k

def choices (n k : Nat) : Nat :=
  let fewer := min k (n - k)
  if n < k then 0 else arrangements n fewer / factorial fewer

/-- Steps down to the root of a number from a guess that is not below it. -/
def descendToRoot (n guess : Nat) : Nat :=
  let next := (guess + n / guess) / 2
  if next < guess then descendToRoot n next else guess

theorem shiftRight_lt (n shift : Nat) (positive : 0 < n) (shifted : shift ≠ 0) :
    n >>> shift < n := by
  rw [Nat.shiftRight_eq_div_pow]
  exact Nat.div_lt_self positive (Nat.one_lt_two_pow shifted)

/-- The largest number whose square is at most `n`. The root of the leading half of the digits is
close to it. -/
def integerRoot (n : Nat) : Nat :=
  if large : 16 ≤ n then
    let shift := n.log2 / 4
    descendToRoot n ((integerRoot (n >>> (2 * shift)) + 1) <<< shift)
  else descendToRoot n n
termination_by n
decreasing_by
  refine shiftRight_lt n _ (by omega) ?_
  have : 4 ≤ n.log2 := (Nat.le_log2 (by omega)).mpr large
  omega

/-- An integer rounded to a multiple of a power of ten, a tie going to the even multiple. A power
of ten is more than twice a number with fewer bits. -/
def roundInteger (n : Int) (places : Int) : Int :=
  if 0 ≤ places then n
  else if (n.natAbs.log2 : Int) + 1 < -places then 0
  else
    let power := Nat.pow 10 (-places).toNat
    let size : Int := roundedQuotient n.natAbs power * power
    if n < 0 then -size else size

/-- A float rounded to places; beyond 323 places it has no digits, and beyond 308 before the point
no more than zero is left. -/
def roundReal (x : Real64) (places : Int) : Except Rejection Scalar :=
  if !x.isFinite || 323 < places then .ok (ofReal x)
  else if places < -308 then .ok (ofReal (.ofMagnitude x.negative 0))
  else
    let rounded := x.roundPlaces places
    if rounded.isFinite then .ok (ofReal rounded) else reject .overflow

def roundPlaces (value places : Value) : Except Rejection Scalar :=
  match value.number? with
  | some (.int n) => do return ofInt (roundInteger n (← integerArgument places))
  | some (.float (.real x)) => do roundReal x (← integerArgument places)
  | some (.float (.nan negative)) => do
    let _ ← integerArgument places
    return ofInexact (.nan negative)
  | _ => reject .type

def maxCount : Nat := 0x7FFFFFFFFFFFFFFF

def permutations (n k : Value) : Except Rejection Scalar := do
  let n ← integerArgument n
  let k ← integerArgument k
  if n < 0 || k < 0 then reject .value
  else if n < k then return ofInt 0
  else if maxCount < k.toNat then reject .overflow
  else return ofInt (arrangements n.toNat k.toNat)

def combinations (n k : Value) : Except Rejection Scalar := do
  let n ← integerArgument n
  let k ← integerArgument k
  if n < 0 || k < 0 then reject .value
  else if n < k then return ofInt 0
  else if maxCount < min k.toNat (n.toNat - k.toNat) then reject .overflow
  else return ofInt (choices n.toNat k.toNat)

def factorialOf (value : Value) : Except Rejection Scalar := do
  let n ← naturalArgument value
  if maxCount < n then reject .overflow else return ofInt (factorial n)

def greatestDivisor (values : List Value) : Except Rejection Scalar := do
  let integers ← values.mapM integerArgument
  return ofInt ((integers.map Int.natAbs).foldl Nat.gcd 0 : Nat)

def leastMultiple (values : List Value) : Except Rejection Scalar := do
  let integers ← values.mapM integerArgument
  return ofInt ((integers.map Int.natAbs).foldl Nat.lcm 1 : Nat)

end MiniLisp.Library
