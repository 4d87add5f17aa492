/-!
Binary floating-point numbers of 64 bits, NaN apart. A number is a sign and a magnitude, the
magnitude being the 63 low bits of its encoding; magnitudes of finite numbers order as the numbers
do.
-/

namespace MiniLisp

/-- The weight of the lowest bit of the exponent field, which is bit 52. -/
def exponentBit : Nat := 0x10000000000000

def signBit : Nat := 0x8000000000000000

/-- The magnitude of an infinity: exponent field full, significand field empty. -/
def infiniteMagnitude : Nat := 0x7FF0000000000000

def notANumber : Float := 0.0 / 0.0

def infinite : Float := 1.0 / 0.0

structure Real64 where
  negative : Bool
  magnitude : Nat
  bounded : magnitude ≤ infiniteMagnitude
  deriving DecidableEq

namespace Real64

def isFinite (x : Real64) : Bool := x.magnitude < infiniteMagnitude

def infinity (negative : Bool) : Real64 := ⟨negative, infiniteMagnitude, Nat.le_refl _⟩

/-- The magnitude that a count of bits encodes; what lies past the infinity is the infinity. -/
def ofMagnitude (negative : Bool) (magnitude : Nat) : Real64 :=
  ⟨negative, min magnitude infiniteMagnitude, Nat.min_le_right ..⟩

def toFloat (x : Real64) : Float :=
  Float.ofBits (UInt64.ofNat (x.magnitude + if x.negative then signBit else 0))

def ofFloat? (x : Float) : Option Real64 :=
  let bits := x.toBits.toNat
  if bounded : bits % signBit ≤ infiniteMagnitude then
    some ⟨signBit ≤ bits, bits % signBit, bounded⟩
  else none

/-- One, in units of `2 ^ (-1074)`. -/
def one : Nat := Nat.pow 2 1074

/-- The distance from zero of a finite number, counted in units of `2 ^ (-1074)`. -/
def units (x : Real64) : Nat :=
  if x.magnitude < exponentBit then x.magnitude
  else (exponentBit + x.magnitude % exponentBit) <<< (x.magnitude / exponentBit - 1)

inductive Position where
  | bottom
  | units (count : Int)
  | top
  deriving DecidableEq

def Position.before : Position → Position → Bool
  | bottom, bottom => false
  | bottom, _ => true
  | units _, bottom => false
  | units a, units b => a < b
  | units _, top => true
  | top, _ => false

def Position.ofInt (n : Int) : Position := units (n * one)

def position (x : Real64) : Position :=
  if x.isFinite then .units (if x.negative then -x.units else x.units)
  else if x.negative then .bottom else .top

end Real64

end MiniLisp
