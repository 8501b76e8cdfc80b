import ScriptHost.Decimal.Read
import ScriptHost.Decimal.Remainder
import ScriptHost.Decimal.Shortest
import ScriptHost.Machine.Value

/-!
# Numbers as script text

How script prints a number and reads one from text.

* printing: `numeral` (the shortest digits, positional from `1e-6` to below `1e21`), `numeralIn`
  another base, `fixedNumeral`, `exponentNumeral`;
* reading: `numberOfText`, which takes white space, the empty text, a sign and other bases.
-/

namespace ScriptHost.Script

/-- Characters as script text. -/
def charUnits (cs : List Char) : Units := cs.flatMap fun c => Text.unitsOfCode c.toNat

/-- Not a number. -/
def notNumber : Float := 0 / 0

def infinity : Float := 1 / 0

/-- The signed digits of an exponent. -/
def signedDigits (n : Int) : List Char :=
  (if n < 0 then '-' else '+') :: Nat.toDigits 10 n.natAbs

/-- Digits `0.d₁d₂… * 10 ^ point` as script writes them. -/
def layOut (ds : List Char) (point : Int) : List Char :=
  let count : Int := ds.length
  if count ≤ point && point ≤ 21 then ds ++ List.replicate (point - count).toNat '0'
  else if 0 < point && point ≤ 21 then ds.take point.toNat ++ '.' :: ds.drop point.toNat
  else if -6 < point && point ≤ 0 then '0' :: '.' :: (List.replicate (-point).toNat '0' ++ ds)
  else
    match ds with
    | [d] => d :: 'e' :: signedDigits (point - 1)
    | d :: rest => d :: '.' :: (rest ++ 'e' :: signedDigits (point - 1))
    | [] => ['0']

/-- The characters of a number. -/
def numeralChars (x : Float) : List Char :=
  if x.isNaN then ['N', 'a', 'N']
  else if x == 0 then ['0']
  else
    let magnitude :=
      if x.isInf then "Infinity".toList
      else
        let shortest := Decimal.shortest .even x
        layOut shortest.digits shortest.point
    if x < 0 then '-' :: magnitude else magnitude

/-- A number as script prints it. -/
def numeral (x : Float) : Units := charUnits (numeralChars x)

/-- The characters of a number, all of its digits positional. -/
def plainNumeral (x : Float) : List Char :=
  if x.isInf then "inf".toList
  else if x == 0 then ['0']
  else
    let shortest := Decimal.shortest .even x
    let count : Int := shortest.digits.length
    if count ≤ shortest.point then
      shortest.digits ++ List.replicate (shortest.point - count).toNat '0'
    else if 0 < shortest.point then
      shortest.digits.take shortest.point.toNat ++ '.' :: shortest.digits.drop shortest.point.toNat
    else '0' :: '.' :: (List.replicate (-shortest.point).toNat '0' ++ shortest.digits)

/-- The finite double as a fraction of natural numbers, its sign left aside. -/
def magnitudeFraction (x : Float) : Nat × Nat := (Decimal.Parts.ofFloat x).over 0

/-- The digit characters of bases up to 36. -/
def digitChar (n : Nat) : Char :=
  if n < 10 then Char.ofNat (0x30 + n) else Char.ofNat (0x61 + (n - 10))

/-- The digits of `n` in a base, the last one first; `fuel` bounds their number. -/
def reversedDigits (base : Nat) : (fuel n : Nat) → List Char
  | 0, _ => []
  | fuel + 1, n => if n = 0 then [] else digitChar (n % base) :: reversedDigits base fuel (n / base)

/-- The digits of `n` in a base. -/
def digitsIn (base n : Nat) : List Char :=
  if n = 0 then ['0'] else (reversedDigits base (n.log2 + 1) n).reverse

/-- Divides a double by the base while the quotient is not precise to the unit; the second answer
counts the divisions. -/
def preciseWhole (base : Float) : (fuel : Nat) → Float → Float × Nat
  | 0, x => (x, 0)
  | fuel + 1, x =>
    if 0 < (Decimal.Parts.ofFloat (x / base)).power then
      let (y, zeros) := preciseWhole base fuel (x / base)
      (y, zeros + 1)
    else (x, 0)

/-- The digits of a double in a base, the last one first, each quotient rounded;
`fuel` bounds their number. -/
def roundedQuotientDigits (base : Nat) : (fuel : Nat) → Float → List Char
  | 0, _ => []
  | fuel + 1, x =>
    let rest := Decimal.remainder x (Float.ofNat base)
    let left := (x - rest) / Float.ofNat base
    digitChar rest.toUInt8.toNat :: if 0 < left then roundedQuotientDigits base fuel left else []

/-- The digits of a whole double in a base; those that the double does not determine are zeros. -/
def wholeDigits (base : Nat) (x : Float) : List Char :=
  let (x, zeros) := preciseWhole (Float.ofNat base) 1100 x
  (roundedQuotientDigits base 1100 x).reverse ++ List.replicate zeros '0'

/-- Digits of a fraction below one in a base, while what is left is at least the tolerance `slack`;
the last digit is rounded up if the next whole is that near.  `fuel` bounds their number. -/
def fractionDigits (base : Nat) : (fuel : Nat) → (part slack : Float) → List Nat
  | 0, _, _ => []
  | fuel + 1, part, slack =>
    let part := part * Float.ofNat base
    let slack := slack * Float.ofNat base
    let digit := part.toUInt8.toNat
    let left := part - Float.ofNat digit
    let upper := 0.5 < left || (left == 0.5 && digit % 2 = 1)
    if upper && 1 < left + slack then [digit + 1]
    else if left < slack then [digit]
    else digit :: fractionDigits base fuel left slack

/-- Digits with the last one first, `carry` added to that one; digits that overflow are dropped and
carried on.  The second answer is what is carried out of them all. -/
def carryDigits (base carry : Nat) : List Nat → List Nat × Nat
  | [] => ([], carry)
  | d :: rest => if d + carry < base then ((d + carry) :: rest, 0) else carryDigits base 1 rest

/-- Half the distance from a positive double to the next greater one. -/
def halfStep (x : Float) : Float :=
  let step := 0.5 * (Float.ofBits (x.toBits + 1) - x)
  if step == 0 then Float.ofBits 1 else step

/-- A number in another base. -/
def numeralIn (base : Nat) (x : Float) : Units :=
  if base = 10 || x.isNaN || x.isInf || x == 0 then numeral x
  else
    let size := x.abs
    let whole := size.floor
    let part := size - whole
    let text :=
      if part < halfStep size then wholeDigits base whole
      else
        let (reversed, carry) :=
          carryDigits base 0 (fractionDigits base 1100 part (halfStep size)).reverse
        wholeDigits base (whole + Float.ofNat carry) ++
          (if reversed.isEmpty then [] else '.' :: reversed.reverse.map digitChar)
    charUnits (if x < 0 then '-' :: text else text)

/-- The quotient rounded to the nearest integer. -/
def roundedQuotient (tie : Decimal.Tie) (num den : Nat) : Nat :=
  num / den + if tie.takesUpper (num / den) (num % den) den then 1 else 0

/-- A finite number with the given count of digits behind the point. -/
def fixedNumeral (x : Float) (places : Nat) : Units :=
  let (num, den) := magnitudeFraction x
  let scaled := roundedQuotient .up (num * Nat.pow 10 places) den
  let digits := Nat.toDigits 10 scaled
  let padded := List.replicate (places + 1 - digits.length) '0' ++ digits
  let cut := padded.length - places
  let text := padded.take cut ++ (if places = 0 then [] else '.' :: padded.drop cut)
  charUnits (if x < 0 then '-' :: text else text)

/-- The decimal digits of a finite, nonzero number rounded to `count` of them, and the point. -/
def roundedDigits (tie : Decimal.Tie) (x : Float) (count : Nat) : List Char × Int :=
  let parts := Decimal.Parts.ofFloat x
  let point := parts.pointPosition
  let (num, den) := parts.over (point - count)
  let n := roundedQuotient tie num den
  let digits := Nat.toDigits 10 n
  if count < digits.length then (digits.take count, point + 1) else (digits, point)

/-- A finite number in scientific notation, with `places` digits behind the point, or as many as it
needs.  A given number of digits is rounded to even. -/
def exponentNumeral (x : Float) (places : Option Nat) : Units :=
  let (digits, point) :=
    if x == 0 then (List.replicate (places.getD 0 + 1) '0', 1)
    else match places with
      | some n => roundedDigits .even x (n + 1)
      | none =>
        let shortest := Decimal.shortest .up x
        (shortest.digits, shortest.point)
  let text := match digits with
    | [] => []
    | d :: rest =>
      (d :: if rest.isEmpty then [] else '.' :: rest) ++ 'e' :: signedDigits (point - 1)
  charUnits (if x < 0 then '-' :: text else text)

/-- A finite number with `count` significant digits, a half going up. -/
def precisionNumeral (x : Float) (count : Nat) : Units :=
  let (digits, point) :=
    if x == 0 then (List.replicate count '0', (1 : Int)) else roundedDigits .up x count
  let text :=
    if point < -5 || (count : Int) < point then
      match digits with
      | [] => []
      | d :: rest =>
        (d :: if rest.isEmpty then [] else '.' :: rest) ++ 'e' :: signedDigits (point - 1)
    else if point = count then digits
    else if 0 < point then digits.take point.toNat ++ '.' :: digits.drop point.toNat
    else '0' :: '.' :: (List.replicate (-point).toNat '0' ++ digits)
  charUnits (if x < 0 then '-' :: text else text)

/-! ## Reading -/

/-- The unit is white space or ends a line. -/
def isSpaceUnit (u : UInt16) : Bool :=
  let n := u.toNat
  n = 0x20 || (0x09 ≤ n && n ≤ 0x0D) || n = 0xA0 || n = 0xFEFF || n = 0x1680 ||
    (0x2000 ≤ n && n ≤ 0x200A) || n = 0x2028 || n = 0x2029 || n = 0x202F || n = 0x205F || n = 0x3000

def trimStart (text : Units) : Units := text.dropWhile isSpaceUnit

def trimEnd (text : Units) : Units := (text.reverse.dropWhile isSpaceUnit).reverse

def trim (text : Units) : Units := trimEnd (trimStart text)

/-- The value of a digit in bases up to 36. -/
def digitValue? (c : Char) : Option Nat :=
  let n := c.toNat
  if 0x30 ≤ n && n ≤ 0x39 then some (n - 0x30)
  else if 0x61 ≤ n && n ≤ 0x7A then some (n - 0x61 + 10)
  else if 0x41 ≤ n && n ≤ 0x5A then some (n - 0x41 + 10)
  else none

/-- The number that digits of a base spell; nothing without digits or with a foreign one. -/
def digitsIn? (base : Nat) (cs : List Char) : Option Nat :=
  if cs.isEmpty then none
  else cs.foldlM (fun n c => do
    let d ← digitValue? c
    if d < base then some (n * base + d) else none) 0

/-- The characters of units; an unpaired half becomes one that no number contains. -/
def unitChars (text : Units) : List Char :=
  text.map fun u => if Text.isHalf u then '\uFFFD' else Char.ofNat u.toNat

/-- A decimal that may be infinite and may have a sign. -/
def signedDecimal? (cs : List Char) : Option Float :=
  let unsigned (cs : List Char) : Option Float :=
    if cs = "Infinity".toList then some infinity else Decimal.readDecimal cs
  match cs with
  | '-' :: rest => (unsigned rest).map fun x => -x
  | '+' :: rest => unsigned rest
  | cs => unsigned cs

/-- The number that a whole text spells. -/
def numberOfText (text : Units) : Float :=
  match unitChars (trim text) with
  | [] => 0
  | '0' :: c :: rest =>
    let base := if c = 'x' || c = 'X' then 16 else if c = 'o' || c = 'O' then 8
      else if c = 'b' || c = 'B' then 2 else 0
    if base = 0 then (signedDecimal? ('0' :: c :: rest)).getD notNumber
    else ((digitsIn? base rest).map Float.ofNat).getD notNumber
  | cs => (signedDecimal? cs).getD notNumber

end ScriptHost.Script
