import ScriptHost.Decimal.Root
import ScriptHost.Script.Numeral

/-!
# Logarithms and exponentials near one

Both functions take the argument apart as a power of two and a remainder, and use a polynomial for
the remainder.

* `logOnePlus`: the logarithm of one more than a number;
* `expMinusOne`: one less than an exponential.
-/

namespace ScriptHost.Script.Library

/-- The upper half of the bits of a double. -/
def upperBits (x : Float) : Nat := x.toBits.toNat / 0x100000000

/-- The double with other upper bits. -/
def withUpperBits (x : Float) (upper : Nat) : Float :=
  Float.ofBits (UInt64.ofNat (upper * 0x100000000 + x.toBits.toNat % 0x100000000))

/-- The logarithm of two in two parts, the first one with few bits. -/
def logTwoUpper : Float := 6.93147180369123816490e-01

def logTwoLower : Float := 1.90821492927058770002e-10

/-- A number `1 + x` as `2 ^ power * (1 + part)`, with what rounding has lost of it. -/
structure SplitOnePlus where
  power : Int
  part : Float
  lost : Float
  /-- The part is the argument itself, or is not zero. -/
  wide : Bool

/-- Splits `1 + x` so that `1 + part` lies between the roots of a half and of two. -/
def SplitOnePlus.of (x : Float) : SplitOnePlus :=
  let u := 1 + x
  let large := 0x43400000 ≤ upperBits x && 0 < x
  let u := if large then x else u
  let power : Int := (upperBits u / 0x100000 : Nat) - 1023
  let lost := if large then 0 else (if 0 < power then 1 - (u - x) else x - (u - 1)) / u
  let low := upperBits u % 0x100000
  if low < 0x6A09E then ⟨power, withUpperBits u (low + 0x3FF00000) - 1, lost, low ≠ 0⟩
  else ⟨power + 1, withUpperBits u (low + 0x3FE00000) - 1, lost, (0x100000 - low) / 4 ≠ 0⟩

/-- The logarithm of `1 + x` from its parts. -/
def SplitOnePlus.log (s : SplitOnePlus) : Float :=
  let k := Float.ofInt s.power
  let f := s.part
  let half := 0.5 * f * f
  if !s.wide then
    if f == 0 then (if s.power = 0 then 0 else k * logTwoUpper + (s.lost + k * logTwoLower))
    else
      let r := half * (1 - 0.66666666666666666 * f)
      if s.power = 0 then f - r
      else k * logTwoUpper - ((r - (k * logTwoLower + s.lost)) - f)
  else
    let t := f / (2 + f)
    let z := t * t
    let z₂ := z * z
    let z₄ := z₂ * z₂
    let z₆ := z₄ * z₂
    let r := z * 6.666666666666735130e-01
      + z₂ * (3.999999999940941908e-01 + z * 2.857142874366239149e-01)
      + z₄ * (2.222219843214978396e-01 + z * 1.818357216161805012e-01)
      + z₆ * (1.531383769920937332e-01 + z * 1.479819860511658591e-01)
    if s.power = 0 then f - (half - t * (half + r))
    else k * logTwoUpper - ((half - (t * (half + r) + (k * logTwoLower + s.lost))) - f)

/-- The logarithm of one more than a number. -/
def logOnePlus (x : Float) : Float :=
  let magnitude := upperBits x.abs
  if x.isNaN then x
  else if x < -1 then notNumber
  else if x == -1 then -infinity
  else if x.isInf then x
  else if magnitude < 0x3C900000 then x
  else if magnitude < 0x3E200000 then x - x * x * 0.5
  else if (0 < x && magnitude < 0x3FDA827A) || (x < 0 && magnitude ≤ 0x3FD2BEC3) then
    SplitOnePlus.log ⟨0, x, 0, true⟩
  else (SplitOnePlus.of x).log

/-- A number as `power * log 2 + part`, with what rounding has lost of it. -/
structure SplitLogTwo where
  power : Int
  part : Float
  lost : Float

/-- Splits a number so that the part is at most half the logarithm of two. -/
def SplitLogTwo.of (x : Float) : SplitLogTwo :=
  let split (power : Int) (upper lower : Float) : SplitLogTwo :=
    let part := upper - lower
    ⟨power, part, (upper - part) - lower⟩
  let magnitude := upperBits x.abs
  if magnitude ≤ 0x3FD62E42 then ⟨0, x, 0⟩
  else if magnitude < 0x3FF0A2B2 then
    if 0 < x then split 1 (x - logTwoUpper) logTwoLower
    else split (-1) (x + logTwoUpper) (-logTwoLower)
  else
    let quotient := 1.44269504088896338700 * x + (if 0 < x then 0.5 else -0.5)
    let t := if quotient < 0 then quotient.ceil else quotient.floor
    split (if t < 0 then -(Int.ofNat (-t).toUInt64.toNat) else Int.ofNat t.toUInt64.toNat)
      (x - t * logTwoUpper) (t * logTwoLower)

/-- One less than the exponential of a number from its parts. -/
def SplitLogTwo.expMinusOne (s : SplitLogTwo) : Float :=
  let x := s.part
  let half := 0.5 * x
  let h := x * half
  let h₂ := h * h
  let r := 1 + h * -3.33333333333331316428e-02
    + h₂ * (1.58730158725481460165e-03 + h * -7.93650757867487942473e-05)
    + h₂ * h₂ * (4.00821782732936239552e-06 + h * -2.01099218183624371326e-07)
  let t := 3 - r * half
  let e := h * ((r - t) / (6 - x * t))
  if s.power = 0 then x - (x * e - h)
  else
    let e := (x * (e - s.lost) - s.lost) - h
    if s.power = -1 then 0.5 * (x - e) - 0.5
    else if s.power = 1 then if x < -0.25 then -2 * (e - (x + 0.5)) else 1 + 2 * (x - e)
    else
      let small : Float := Float.scaleB 1 (-s.power)
      if s.power < 0 || 56 < s.power then (1 - (e - x)).scaleB s.power - 1
      else if s.power < 20 then ((1 - small) - (e - x)).scaleB s.power
      else ((x - (e + small)) + 1).scaleB s.power

/-- One less than the exponential of a number. -/
def expMinusOne (x : Float) : Float :=
  let magnitude := upperBits x.abs
  if x.isNaN then x
  else if x < 0 && 0x4043687A ≤ magnitude then -1
  else if 7.09782712893383973096e+02 < x then infinity
  else if magnitude < 0x3C900000 then x
  else (SplitLogTwo.of x).expMinusOne

/-- The inverse hyperbolic sine. -/
def areaSine (x : Float) : Float :=
  let size := x.abs
  let inverse := 1 / size
  let r := logOnePlus (size + size / (Decimal.hypotenuse 1 inverse + inverse))
  if Decimal.isNegative x then -r else r

/-- The inverse hyperbolic cosine. -/
def areaCosine (x : Float) : Float :=
  if x < 1 then notNumber else (x + (x - 1).sqrt * (x + 1).sqrt).log

/-- The inverse hyperbolic tangent. -/
def areaTangent (x : Float) : Float := 0.5 * logOnePlus ((2 * x) / (1 - x))

end ScriptHost.Script.Library
