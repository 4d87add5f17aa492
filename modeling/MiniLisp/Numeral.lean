import MiniLisp.Text.Blank
import MiniLisp.Text.Digit
import MiniLisp.Real64.Rounding

/-!
Numerals: the spellings that are numbers. A numeral may stand between blanks and may use the
decimal digits of any script. Infinity and NaN have no numeral.
-/

namespace MiniLisp

/-- An integer numeral has at most this many digits, leading zeros included. -/
def maxNumeralLength : Nat := 4300

def splitSign : List Char → Bool × List Char
  | '-' :: rest => (true, rest)
  | '+' :: rest => (false, rest)
  | rest => (false, rest)

def signed (negative : Bool) (n : Nat) : Int := if negative then -n else n

/-- An optional sign and one digit or more. -/
def readInteger? (text : List Char) : Option Int :=
  let (negative, digits) := splitSign (trimBoth isNumeralPadding text)
  if digits.isEmpty || !digits.all isDigit || maxNumeralLength < digits.length then none
  else some (signed negative (digitsValue digits))

/-- The exponent part of a decimal: nothing, or `e`, an optional sign and one digit or more. -/
def readExponent? : List Char → Option Int
  | [] => some 0
  | mark :: rest =>
    let (negative, digits) := splitSign rest
    if (mark = 'e' || mark = 'E') && !digits.isEmpty && digits.all isDigit then
      some (signed negative (digitsValue digits))
    else none

/-- An optional sign, digits with at most one point among or around them, and an exponent part. -/
def readDecimal? (text : List Char) : Option Real64 :=
  let (negative, body) := splitSign (trimBoth isNumeralPadding text)
  let whole := body.takeWhile isDigit
  let (fraction, rest) := match body.dropWhile isDigit with
    | '.' :: rest => (rest.takeWhile isDigit, rest.dropWhile isDigit)
    | rest => ([], rest)
  if whole.isEmpty && fraction.isEmpty then none
  else (readExponent? rest).map fun exponent =>
    Real64.ofDecimal negative (digitsValue (whole ++ fraction)) (exponent - fraction.length)

end MiniLisp
