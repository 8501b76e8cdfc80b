import ScriptHost.Script.Numeral

/-!
# Whole numbers

What numbers and texts are as integers, and integers as numbers.

* from numbers: `wholePart`, `floatInt`, `exactInt`, `wordOf`, `roundEven`;
* from text: `bigintOfText?`;
* words: `wrapInt`, `signedWord`;
* back: `intFloat`.
-/

namespace ScriptHost.Script

/-- The whole part of a number; zero for not-a-number. -/
def wholePart (x : Float) : Float := if x.isNaN then 0 else if x < 0 then x.ceil + 0 else x.floor

/-- A whole number as an integer, cut to a range that no length leaves. -/
def floatInt (x : Float) : Int :=
  if x ≤ -9007199254740992 then -9007199254740992
  else if 9007199254740992 ≤ x then 9007199254740992
  else if x < 0 then -((-x).toUInt64.toNat : Int)
  else (x.toUInt64.toNat : Int)

/-- The exact integer of a whole number. -/
def exactInt (x : Float) : Int :=
  let (num, den) := magnitudeFraction x
  let n : Int := num / den
  if x < 0 then -n else n

/-- The integer modulo `2 ^ 32` that a number stands for in operations on bits. -/
def wordOf (x : Float) : UInt32 :=
  if x.isNaN || x.isInf then 0
  else UInt32.ofNat ((exactInt (wholePart x)) % 4294967296).toNat

/-- The signed integer of a word. -/
def signedWord (w : UInt32) : Int :=
  if w.toNat < 2147483648 then w.toNat else (w.toNat : Int) - 4294967296

/-- The nearest double of an integer. -/
def intFloat (n : Int) : Float := if n < 0 then -(Float.ofNat n.natAbs) else Float.ofNat n.natAbs

/-- The nearest integer, a half going to the even neighbour. -/
def roundEven (x : Float) : Float :=
  let low := x.floor
  let rest := x - low
  if rest < 0.5 then low
  else if 0.5 < rest then low + 1
  else if Decimal.remainder low 2 == 0 then low else low + 1

/-- An integer kept in a range of words. -/
def wrapInt (bits : Nat) (isSigned : Bool) (n : Int) : Int :=
  let size : Int := Nat.pow 2 bits
  let word := n.emod size
  if isSigned && size ≤ 2 * word then word - size else word

/-- The integer that a text spells. -/
def bigintOfText? (text : Units) : Option Int :=
  match unitChars (trim text) with
  | [] => some 0
  | '-' :: rest => (digitsIn? 10 rest).map fun n => -(n : Int)
  | '+' :: rest => (digitsIn? 10 rest).map fun n => (n : Int)
  | '0' :: 'x' :: rest => (digitsIn? 16 rest).map fun n => (n : Int)
  | cs => (digitsIn? 10 cs).map fun n => (n : Int)

end ScriptHost.Script
