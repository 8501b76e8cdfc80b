import ScriptHost.Decimal.Shortest

/-!
# Remainders of doubles

`remainder` divides the exact values, so its result is not rounded.
-/

namespace ScriptHost.Decimal

/-- The remainder of a division that goes toward zero; it has the sign of the first operand. -/
def remainder (x y : Float) : Float :=
  if x.isNaN || y.isNaN || x.isInf || y == 0 then 0 / 0
  else if y.isInf || x == 0 then x
  else
    let a := Parts.ofFloat x
    let b := Parts.ofFloat y
    let power := min a.power b.power
    let num := a.significand * Nat.pow 2 (a.power - power).toNat
    let den := b.significand * Nat.pow 2 (b.power - power).toNat
    let rest := (Float.ofNat (num % den)).scaleB power
    if x < 0 then -rest else rest

end ScriptHost.Decimal
