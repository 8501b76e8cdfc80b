/-!
# Shortest decimal digits of a double

A finite double is `significand * 2 ^ power`, and every real in an interval around it is read back
as that double.  `Double.shortest` takes the fewest digits of a decimal in that interval, and of
several such decimals the nearest.

* `Parts`, `Parts.ofFloat`: the double as an exact fraction;
* `Parts.reads`: does a decimal read back as the double?
* `shortest`: the digits, and where the point stands; a `Tie` decides between two
  that are equally near.
-/

namespace ScriptHost.Decimal

/-- The magnitude of a finite double, `significand * 2 ^ power`. -/
structure Parts where
  significand : Nat
  power : Int
  /-- The next smaller double is only half as far away as the next greater one. -/
  narrowBelow : Bool
  deriving DecidableEq, Repr

/-- The sign bit. -/
def isNegative (x : Float) : Bool := x.toBits.toNat / 0x8000000000000000 = 1

/-- The magnitude of a finite double. -/
def Parts.ofFloat (x : Float) : Parts :=
  let bits := x.toBits.toNat
  let exponent := bits / 0x10000000000000 % 0x800
  let low := bits % 0x10000000000000
  if exponent = 0 then ⟨low, -1074, false⟩
  else ⟨low + 0x10000000000000, Int.ofNat exponent - 1075, low = 0 && 1 < exponent⟩

/-- `2 ^ p` or `10 ^ p` as a fraction: the factor above the line and the one below it. -/
def fraction (base : Nat) (p : Int) : Nat × Nat :=
  (Nat.pow base p.toNat, Nat.pow base (-p).toNat)

/-- The decimal `digits * 10 ^ place` lies in the interval of reals that round to the double; its
ends belong to it when the significand is even. -/
def Parts.reads (x : Parts) (digits : Nat) (place : Int) : Bool :=
  let (up₂, down₂) := fraction 2 (x.power - 2)
  let (up₁₀, down₁₀) := fraction 10 place
  let decimal := digits * up₁₀ * down₂
  let low := (4 * x.significand - if x.narrowBelow then 1 else 2) * up₂ * down₁₀
  let high := (4 * x.significand + 2) * up₂ * down₁₀
  if x.significand % 2 = 0 then low ≤ decimal && decimal ≤ high
  else low < decimal && decimal < high

/-- The double divided by `10 ^ place`, as a fraction. -/
def Parts.over (x : Parts) (place : Int) : Nat × Nat :=
  let (up₂, down₂) := fraction 2 x.power
  let (up₁₀, down₁₀) := fraction 10 place
  (x.significand * up₂ * down₁₀, down₂ * up₁₀)

/-- The number of decimal digits of `n`. -/
def digitCount (n : Nat) : Nat := (Nat.toDigits 10 n).length

/-- The position of the point: the least `k` with the double below `10 ^ k`. -/
def Parts.pointPosition (x : Parts) : Int :=
  let (num, den) := x.over 0
  if den ≤ num then digitCount (num / den)
  else
    let scaled := num * Nat.pow 10 400 / den
    (digitCount scaled : Int) - 400

/-- A decimal `0.d₁d₂… * 10 ^ point`, its digits without zeros at either end. -/
structure Digits where
  digits : List Char
  point : Int
  deriving DecidableEq, Repr

/-- Which of two neighbours is taken for a number in the middle between them. -/
inductive Tie
  | even
  | up
  deriving DecidableEq, Repr

/-- The neighbour `below + 1` is taken rather than `below` for a number that lies
`part / den` above `below`. -/
def Tie.takesUpper (tie : Tie) (below part den : Nat) : Bool :=
  den < 2 * part || (2 * part = den && (tie = .up || below % 2 = 1))

/-- Of the two neighbours of the double among the multiples of `10 ^ place`, the one that reads
back, the nearer one if both do. -/
def Parts.nearest? (x : Parts) (tie : Tie) (place : Int) : Option Nat :=
  let (num, den) := x.over place
  let below := num / den
  let above := below + 1
  match x.reads below place, x.reads above place with
  | true, true => some (if tie.takesUpper below (num % den) den then above else below)
  | true, false => some below
  | false, true => some above
  | false, false => none

/-- Tries the grids with `count`, `count + 1`, … digits. -/
def Parts.search (x : Parts) (tie : Tie) (point : Int) : (tries count : Nat) → Nat × Int
  | 0, count => ((x.over (point - count)).1, point - count)
  | tries + 1, count =>
    match x.nearest? tie (point - count) with
    | some digits => (digits, point - count)
    | none => x.search tie point tries (count + 1)

/-- The fewest digits that read back as the finite, nonzero double `x`, its sign left aside. -/
def shortest (tie : Tie) (x : Float) : Digits :=
  let parts := Parts.ofFloat x
  let (digits, place) := parts.search tie parts.pointPosition 17 1
  let text := Nat.toDigits 10 digits
  let trimmed := (text.reverse.dropWhile (· = '0')).reverse
  ⟨trimmed, place + text.length⟩

end ScriptHost.Decimal
