import MiniLisp.Real64.Exact

/-!
Special functions of a float: `e ^ x - 1`, `log (1 + x)`, the error function and its complement,
and the gamma function and its logarithm. The first four reduce the argument to an interval on
which a rational function approximates; the gamma functions use a sum of Lanczos with thirteen
terms.
-/

namespace MiniLisp.Special

/-- The terms of a polynomial taken two by two, without the even power that each pair shares. -/
def termPairs (z : Float) : List Float → List Float
  | [] => []
  | [a] => [a]
  | a :: b :: rest => (a + z * b) :: termPairs z rest

def polynomial (coefficients : List Float) (z : Float) : Float :=
  let square := z * z
  let fourth := square * square
  match termPairs z coefficients with
  | [] => 0.0
  | first :: rest =>
    (rest.zip [square, fourth, fourth * square, fourth * fourth]).foldl
      (fun sum (term, power) => sum + power * term) first

/-- The 32 high bits of the encoding, sign apart. -/
def highWord (x : Float) : Nat := (x.toBits.toNat / 0x100000000) % 0x80000000

def isNegative (x : Float) : Bool := signBit ≤ x.toBits.toNat

/-- The float with the low half of its encoding cleared. -/
def coarse (x : Float) : Float :=
  Float.ofBits (UInt64.ofNat (x.toBits.toNat / 0x100000000 * 0x100000000))

def shiftExponent (x : Float) (k : Int) : Float :=
  Float.ofBits (UInt64.ofNat ((x.toBits.toNat : Int) + k * exponentBit).toNat)

def ln2High : Float := 6.93147180369123816490e-01

def ln2Low : Float := 1.90821492927058770002e-10

/-- The reduced argument of `expm1` near zero, the error of the reduction, and the power of two by
which the result is scaled. -/
def expm1Reduced (x : Float) : Float × Float × Int :=
  let fromParts (high low : Float) (k : Int) :=
    let reduced := high - low
    (reduced, (high - reduced) - low, k)
  if highWord x ≤ 0x3fd62e42 then (x, 0.0, 0)
  else if highWord x < 0x3FF0A2B2 then
    if isNegative x then fromParts (x + ln2High) (-ln2Low) (-1)
    else fromParts (x - ln2High) ln2Low 1
  else
    let nearest := 1.44269504088896338700e+00 * x + (if isNegative x then -0.5 else 0.5)
    let count := if isNegative x then nearest.ceil else nearest.floor
    fromParts (x - count * ln2High) (count * ln2Low)
      (if isNegative x then -((-count).toUInt64.toNat : Int) else (count.toUInt64.toNat : Int))

def expm1Quotient : Float → Float :=
  polynomial
    [1.0, -3.33333333333331316428e-02, 1.58730158725481460165e-03, -7.93650757867487942473e-05,
      4.00821782732936239552e-06, -2.01099218183624371326e-07]

def expm1 (x : Float) : Float :=
  if x.isNaN then x
  else if x.isInf then (if isNegative x then -1.0 else x)
  else if 0x4043687A ≤ highWord x && isNegative x then -1.0
  else if 7.09782712893383973096e+02 < x then infinite
  else if highWord x < 0x3c900000 then x
  else
    let (x, error, k) := expm1Reduced x
    let half := 0.5 * x
    let halfSquare := x * half
    let r := expm1Quotient halfSquare
    let t := 3.0 - r * half
    let e := halfSquare * ((r - t) / (6.0 - x * t))
    if k = 0 then x - (x * e - halfSquare)
    else
      let e := (x * (e - error) - error) - halfSquare
      if k = -1 then 0.5 * (x - e) - 0.5
      else if k = 1 then
        if x < -0.25 then -2.0 * (e - (x + 0.5)) else 1.0 + 2.0 * (x - e)
      else if k ≤ -2 || 56 < k then shiftExponent (1.0 - (e - x)) k - 1.0
      else
        let smallest := shiftExponent 1.0 (-k)
        if k < 20 then shiftExponent ((1.0 - smallest) - (e - x)) k
        else shiftExponent ((x - (e + smallest)) + 1.0) k

/-- A polynomial in the square of `f / (2 + f)`. -/
def log1pSeries : Float → Float :=
  polynomial
    [0.0, 6.666666666666735130e-01, 3.999999999940941908e-01, 2.857142874366239149e-01,
      2.222219843214978396e-01, 1.818357216161805012e-01, 1.531383769920937332e-01,
      1.479819860511658591e-01]

/-- `log (1 + f) + k * log 2` with a correction, for `f` between the square root of a half and
that of two, less one each. -/
def log1pReduced (f correction : Float) (k : Float) (tiny : Bool) : Float :=
  let halfSquare := 0.5 * f * f
  if tiny then
    if f == 0.0 then
      if k == 0.0 then 0.0 else k * ln2High + (correction + k * ln2Low)
    else
      let r := halfSquare * (1.0 - 0.66666666666666666 * f)
      if k == 0.0 then f - r else k * ln2High - ((r - (k * ln2Low + correction)) - f)
  else
    let s := f / (2.0 + f)
    let r := log1pSeries (s * s)
    if k == 0.0 then f - (halfSquare - s * (halfSquare + r))
    else k * ln2High - ((halfSquare - (s * (halfSquare + r) + (k * ln2Low + correction))) - f)

def log1p (x : Float) : Float :=
  if x.isNaN then x
  else if x == -1.0 then -infinite
  else if x < -1.0 then notANumber
  else if x.isInf then x
  else if highWord x < 0x3e200000 then
    if highWord x < 0x3c900000 then x else x - x * x * 0.5
  else if highWord x < (if isNegative x then 0x3fd2bec4 else 0x3FDA827A) then
    log1pReduced x 0.0 0.0 false
  else
    let large := 0x43400000 ≤ highWord x
    let u := if large then x else 1.0 + x
    let k : Int := (highWord u / 0x100000 : Nat) - 1023
    let correction := if large then 0.0
      else (if 0 < k then 1.0 - (u - x) else x - (u - 1.0)) / u
    let fraction := highWord u % 0x100000
    let lower := fraction < 0x6a09e
    let k := if lower then k else k + 1
    let tiny := if lower then fraction = 0 else (0x100000 - fraction) / 4 = 0
    let scaled := Float.ofBits (UInt64.ofNat
      (u.toBits.toNat % exponentBit + (if lower then 1023 else 1022) * exponentBit))
    log1pReduced (scaled - 1.0) correction (Float.ofInt k) tiny

/-- `erf x / x - 1` near zero. -/
def erfNearZero (z : Float) : Float :=
  polynomial
    [1.28379167095512558561e-01, -3.25042107247001499370e-01, -2.84817495755985104766e-02,
      -5.77027029648944159157e-03, -2.37630166566501626084e-05] z /
  polynomial
    [1.0, 3.97917223959155352819e-01, 6.50222499887672944485e-02, 5.08130628187576562776e-03,
      1.32494738004321644526e-04, -3.96022827877536812320e-06] z

def erfOne : Float := 8.45062911510467529297e-01

/-- `erf (1 + s) - erfOne` for small `s`. -/
def erfNearOne (s : Float) : Float :=
  polynomial
    [-2.36211856075265944077e-03, 4.14856118683748331666e-01, -3.72207876035701323847e-01,
      3.18346619901161753674e-01, -1.10894694282396677476e-01, 3.54783043256182359371e-02,
      -2.16637559486879084300e-03] s /
  polynomial
    [1.0, 1.06420880400844228286e-01, 5.40397917702171048937e-01, 7.18286544141962662868e-02,
      1.26171219808761642112e-01, 1.36370839120290507362e-02, 1.19844998467991074170e-02] s

/-- The complement of the error function from 1.25 on. The approximation changes where the high
word of `x` reaches `switch`. -/
def erfcTail (switch : Nat) (x : Float) : Float :=
  let s := 1.0 / (x * x)
  let exponent :=
    if highWord x < switch then
      polynomial
        [-9.86494403484714822705e-03, -6.93858572707181764372e-01, -1.05586262253232909814e+01,
          -6.23753324503260060396e+01, -1.62396669462573470355e+02, -1.84605092906711035994e+02,
          -8.12874355063065934246e+01, -9.81432934416914548592e+00] s /
      polynomial
        [1.0, 1.96512716674392571292e+01, 1.37657754143519042600e+02, 4.34565877475229228821e+02,
          6.45387271733267880336e+02, 4.29008140027567833386e+02, 1.08635005541779435134e+02,
          6.57024977031928170135e+00, -6.04244152148580987438e-02] s
    else
      polynomial
        [-9.86494292470009928597e-03, -7.99283237680523006574e-01, -1.77579549177547519889e+01,
          -1.60636384855821916062e+02, -6.37566443368389627722e+02, -1.02509513161107724954e+03,
          -4.83519191608651397019e+02] s /
      polynomial
        [1.0, 3.03380607434824582924e+01, 3.25792512996573918826e+02, 1.53672958608443695994e+03,
          3.19985821950859553908e+03, 2.55305040643316442583e+03, 4.74528541206955367215e+02,
          -2.24409524465858183362e+01] s
  let z := coarse x
  (-z * z - 0.5625).exp * ((z - x) * (z + x) + exponent).exp / x

def erf (x : Float) : Float :=
  if x.isNaN then x
  else if x.isInf then (if isNegative x then -1.0 else 1.0)
  else if highWord x < 0x3feb0000 then
    if highWord x < 0x00800000 then 0.0625 * (16.0 * x + (16.0 * 1.28379167095512586316e-01) * x)
    else if highWord x < 0x3e300000 then x + 1.28379167095512586316e-01 * x
    else x + x * erfNearZero (x * x)
  else
    let size := if highWord x < 0x3ff40000 then erfOne + erfNearOne (x.abs - 1.0)
      else if 0x40180000 ≤ highWord x then 1.0
      else 1.0 - erfcTail 0x4006DB6E x.abs
    if isNegative x then -size else size

def erfc (x : Float) : Float :=
  if x.isNaN then x
  else if x.isInf then (if isNegative x then 2.0 else 0.0)
  else if highWord x < 0x3feb0000 then
    if highWord x < 0x3c700000 then 1.0 - x
    else
      let y := erfNearZero (x * x)
      if x < 0.25 then 1.0 - (x + x * y) else 0.5 - (x * y + (x - 0.5))
  else if highWord x < 0x3ff40000 then
    let rest := erfNearOne (x.abs - 1.0)
    if isNegative x then 1.0 + (erfOne + rest) else (1.0 - erfOne) - rest
  else if highWord x < 0x403c0000 then
    let tail := erfcTail 0x4006DB6D x.abs
    if isNegative x then (if x < -6.0 then 2.0 else 2.0 - tail) else tail
  else if isNegative x then 2.0 else 0.0

def pi : Float := 3.141592653589793

/-- The absolute value of a finite float, less a multiple of two. -/
def withinTwo (x : Float) : Float :=
  match Real64.ofFloat? x.abs with
  | some y => (Real64.ofUnits false (y.units % (2 * Real64.one)) 1).toFloat
  | none => x

def sinPi (x : Float) : Float :=
  let y := withinTwo x
  let quarter := (2.0 * y).round
  let sine :=
    if quarter == 0.0 then (pi * y).sin
    else if quarter == 1.0 then (pi * (y - 0.5)).cos
    else if quarter == 2.0 then (pi * (1.0 - y)).sin
    else if quarter == 3.0 then -(pi * (y - 1.5)).cos
    else (pi * (y - 2.0)).sin
  if isNegative x then -sine else sine

def lanczosNumerator : List Float :=
  [23531376880.410759688572007674451636754734846804940,
    42919803642.649098768957899047001988850926355848959,
    35711959237.355668049440185451547166705960488635843,
    17921034426.037209699919755754458931112671403265390,
    6039542586.3520280050642916443072979210699388420708,
    1439720407.3117216736632230727949123939715485786372,
    248874557.86205415651146038641322942321632125127801,
    31426415.585400194380614231628318205362874684987640,
    2876370.6289353724412254090516208496135991145378768,
    186056.26539522349504029498971604569928220784236328,
    8071.6720023658162106380029022722506138218516325024,
    210.82427775157934587250973392071336271166969580291,
    2.5066282746310002701649081771338373386264310793408]

def lanczosDenominator : List Float :=
  [0.0, 39916800.0, 120543840.0, 150917976.0, 105258076.0, 45995730.0, 13339535.0, 2637558.0,
    357423.0, 32670.0, 1925.0, 66.0, 1.0]

def lanczosSum (x : Float) : Float :=
  if x < 5.0 then
    let horner := fun (coefficients : List Float) =>
      coefficients.reverse.foldl (fun sum c => sum * x + c) 0.0
    horner lanczosNumerator / horner lanczosDenominator
  else
    let horner := fun (coefficients : List Float) =>
      coefficients.foldl (fun sum c => sum / x + c) 0.0
    horner lanczosNumerator / horner lanczosDenominator

def lanczosG : Float := 6.024680040776729583740234375

def gammaOfInteger (n : Nat) : Float :=
  Float.ofNat ((List.range n).foldl (fun product i => if i = 0 then product else product * i) 1)

def gammaLanczos (x : Float) : Float :=
  let size := x.abs
  let shift := lanczosG - 0.5
  let y := size + shift
  let error := if shift < size then (y - size) - shift else (y - shift) - size
  let z := error * lanczosG / y
  let half := y.pow (size / 2.0 - 0.25)
  if x < 0.0 then
    let r := -pi / sinPi size / size * y.exp / lanczosSum size
    let r := r - z * r
    if size < 140.0 then r / y.pow (size - 0.5) else r / half / half
  else
    let r := lanczosSum size / y.exp
    let r := r + z * r
    if size < 140.0 then r * y.pow (size - 0.5) else r * half * half

/-- The gamma function; an infinity stands for an overflow and for a pole, a NaN for no value. -/
def gamma (x : Float) : Float :=
  if x.isNaN then x
  else if x.isInf then (if isNegative x then notANumber else x)
  else if x == 0.0 then 1.0 / x
  else if x == x.floor && x < 0.0 then notANumber
  else if x == x.floor && x ≤ 23.0 then gammaOfInteger x.toUInt64.toNat
  else if x.abs < 1e-20 then 1.0 / x
  else if 200.0 < x.abs then (if x < 0.0 then 0.0 / sinPi x else infinite)
  else gammaLanczos x

/-- The logarithm of the absolute value of the gamma function; an infinity stands for a pole. -/
def lgamma (x : Float) : Float :=
  if x.isNaN then x
  else if x.isInf then infinite
  else if x == x.floor && x ≤ 2.0 then (if x ≤ 0.0 then infinite else 0.0)
  else if x.abs < 1e-20 then -x.abs.log
  else
    let size := x.abs
    let r := (lanczosSum size).log - lanczosG
    let r := r + (size - 0.5) * ((size + lanczosG - 0.5).log - 1.0)
    if x < 0.0 then
      1.144729885849400174143427351353058711647 - (sinPi size).abs.log - size.log - r
    else r

end MiniLisp.Special
