import ScriptHost.Script.Library.Logarithm
import ScriptHost.Script.Library.Numbers

/-!
# Arithmetic functions

Functions of one, two or any number of numbers.
-/

namespace ScriptHost.Script.Library

open Run

/-- The greater of two numbers; a positive zero is greater than a negative one. -/
def greater (x y : Float) : Float :=
  if x.isNaN || y.isNaN then notNumber
  else if x == 0 && y == 0 then (if 1 / x < 0 then y else x)
  else if x < y then y else x

/-- The lesser of two numbers. -/
def lesser (x y : Float) : Float := -(greater (-x) (-y))

/-- The nearest whole number, a half going up. -/
def roundUp (x : Float) : Float :=
  if x.isNaN || x.isInf || x == 0 then x
  else if x < 0 && -0.5 ≤ x then -0.0
  else if x.floor == x then x
  else
    let low := x.floor
    if 0.5 ≤ x - low then low + 1 else low

/-- The number without its fraction. -/
def cutOff (x : Float) : Float := if x < 0 then x.ceil else x.floor

/-- The sign of a number. -/
def signOf (x : Float) : Float := if x.isNaN || x == 0 then x else if x < 0 then -1 else 1

/-- A function of one number. -/
def unaryMath? : MathOp → Option (Float → Float)
  | .abs => some Float.abs
  | .acos => some Float.acos
  | .acosh => some areaCosine
  | .asin => some Float.asin
  | .asinh => some areaSine
  | .atan => some Float.atan
  | .atanh => some areaTangent
  | .cbrt => some Decimal.cubeRoot
  | .ceil => some Float.ceil
  | .cos => some Float.cos
  | .cosh => some Float.cosh
  | .exp => some Float.exp
  | .expm1 => some expMinusOne
  | .floor => some Float.floor
  | .fround => some fun x => x.toFloat32.toFloat
  | .log => some Float.log
  | .log1p => some logOnePlus
  | .log10 => some Float.log10
  | .log2 => some Float.log2
  | .round => some roundUp
  | .sign => some signOf
  | .sin => some Float.sin
  | .sinh => some Float.sinh
  | .sqrt => some Float.sqrt
  | .tan => some Float.tan
  | .tanh => some Float.tanh
  | .trunc => some cutOff
  | .clz32 => some fun x =>
    let w := (wordOf x).toNat
    if w = 0 then 32 else Float.ofNat (31 - w.log2)
  | _ => none

/-- The numbers that the arguments turn into. -/
def numberArguments (i : Invocation) : Run (List Float) := do
  let found ← foldItems (fun (done : List Float) v => do pure ((← toNumber v) :: done)) i.args []
  pure found.reverse

end ScriptHost.Script.Library

namespace ScriptHost.Script

open Run Library

/-- An arithmetic function. -/
def MathOp.run (op : MathOp) (i : Invocation) : Run ScriptValue :=
  match unaryMath? op with
  | some f => do pure (.number (f (← toNumber (i.arg 0))))
  | none =>
    match op with
    | atan2 => do
      let y ← toNumber (i.arg 0)
      let x ← toNumber (i.arg 1)
      pure (.number (Float.atan2 y x))
    | pow => do
      let x ← toNumber (i.arg 0)
      let y ← toNumber (i.arg 1)
      pure (.number (floatPower x y))
    | imul => do
      let x := wordOf (← toNumber (i.arg 0))
      let y := wordOf (← toNumber (i.arg 1))
      pure (.number (intFloat (signedWord (x * y))))
    | max => do
      let xs ← numberArguments i
      pure (.number (xs.foldl greater (-infinity)))
    | min => do
      let xs ← numberArguments i
      pure (.number (xs.foldl lesser infinity))
    | hypot => do
      let xs ← numberArguments i
      pure (.number (xs.foldl Decimal.hypotenuse 0))
    | _ => pure (.number 0.5)

end ScriptHost.Script
