import ScriptHost.Decimal.Shortest

/-!
# Roots rounded to doubles

The root of an exact number is compared with doubles through whole numbers,
so it is rounded only once.

* `integerRoot`: the greatest whole number whose power is not too great;
* `nearestRoot`: the double nearest to a root;
* `hypotenuse`, `cubeRoot`.
-/

namespace ScriptHost.Decimal

/-- Adds to `r` the powers of two below `2 ^ bits` that keep its `k`-th power at most `n`. -/
def rootBits (k n : Nat) : (bits r : Nat) → Nat
  | 0, r => r
  | bits + 1, r =>
    let next := r + Nat.pow 2 bits
    rootBits k n bits (if Nat.pow next k ≤ n then next else r)

/-- The greatest whole number whose `k`-th power is at most `n`. -/
def integerRoot (k n : Nat) : Nat := rootBits k n (n.log2 / k + 1) 0

/-- The double nearest to the `k`-th root of `n * 2 ^ power`. -/
def nearestRoot (k n : Nat) (power : Int) : Float :=
  if n = 0 then 0
  else
    -- the root gets more bits than a double has, and the power becomes a multiple of `k`
    let wanted := 60 * k
    let shift := wanted + (power - wanted) % k |>.toNat
    let scaled := n * Nat.pow 2 shift
    let root := integerRoot k scaled
    let surplus := root.log2 - 60
    let kept := root / Nat.pow 2 surplus
    let inexact := if Nat.pow (kept * Nat.pow 2 surplus) k = scaled then 0 else 1
    (Float.ofNat (2 * kept + inexact)).scaleB ((power - shift) / k - 1 + surplus)

/-- The square root of the sum of two squares. -/
def hypotenuse (x y : Float) : Float :=
  if x.isInf || y.isInf then 1 / 0
  else if x.isNaN || y.isNaN then 0 / 0
  else
    let a := Parts.ofFloat x
    let b := Parts.ofFloat y
    let power := min a.power b.power
    let sideA := a.significand * Nat.pow 2 (a.power - power).toNat
    let sideB := b.significand * Nat.pow 2 (b.power - power).toNat
    nearestRoot 2 (sideA * sideA + sideB * sideB) (2 * power)

/-- The cube root. -/
def cubeRoot (x : Float) : Float :=
  if x.isNaN || x.isInf || x == 0 then x
  else
    let parts := Parts.ofFloat x
    let root := nearestRoot 3 parts.significand parts.power
    if x < 0 then -root else root

end ScriptHost.Decimal
