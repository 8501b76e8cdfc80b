/-!
# Reading a decimal

`readDecimal` takes digits, an optional fraction and an optional exponent, and answers the nearest
double.  The whole text has to be such a decimal; `digitsAndPlace?` reads it exactly.
`Literal.read?` also knows signs and the values that are not finite.
-/

namespace ScriptHost.Decimal

/-- The value of decimal digits. -/
def digitsValue (ds : List Char) : Nat :=
  ds.foldl (fun n d => 10 * n + (d.toNat - '0'.toNat)) 0

/-- The double nearest to `digits * 10 ^ place`. -/
def scientific (digits : Nat) (place : Int) : Float :=
  if digits = 0 ∨ place < -(400 + (Nat.toDigits 10 digits).length : Int) then 0
  else if place < 0 then Float.ofScientific digits true (-place).toNat
  else if 400 < place then 1 / 0
  else Float.ofScientific digits false place.toNat

/-- A signed exponent, all of `cs`. -/
def readExponent (cs : List Char) : Option Int :=
  let (negative, ds) := match cs with
    | '-' :: r => (true, r)
    | '+' :: r => (false, r)
    | r => (false, r)
  if ds.isEmpty || !ds.all Char.isDigit then none
  else
    let n : Int := digitsValue ds
    some (if negative then -n else n)

/-- The exact value `digits * 10 ^ place` of an unsigned decimal: digits before or behind the point,
at least one of them, and perhaps an exponent. -/
def digitsAndPlace? (cs : List Char) : Option (Nat × Int) :=
  let whole := cs.takeWhile Char.isDigit
  let rest := cs.dropWhile Char.isDigit
  let (part, rest) := match rest with
    | '.' :: r => (r.takeWhile Char.isDigit, r.dropWhile Char.isDigit)
    | r => ([], r)
  if whole.isEmpty && part.isEmpty then none
  else
    let digits := digitsValue (whole ++ part)
    let place : Int := -(part.length : Int)
    match rest with
    | [] => some (digits, place)
    | e :: r =>
      if e = 'e' || e = 'E' then (readExponent r).map fun n => (digits, place + n) else none

/-- The nearest double of an unsigned decimal. -/
def readDecimal (cs : List Char) : Option Float :=
  (digitsAndPlace? cs).map fun (digits, place) => scientific digits place

/-- A number with an optional sign: a decimal, `inf` or `infinity`, or `nan`,
in letters of either case. -/
inductive Literal
  | decimal (negative : Bool) (digits : Nat) (place : Int)
  | infinity (negative : Bool)
  | notNumber

/-- Reads a number with an optional sign. -/
def Literal.read? (s : String) : Option Literal :=
  let (negative, body) := match s.toList with
    | '-' :: r => (true, r)
    | '+' :: r => (false, r)
    | r => (false, r)
  let word := String.ofList (body.map Char.toLower)
  if word = "inf" ∨ word = "infinity" then some (infinity negative)
  else if word = "nan" then some notNumber
  else (digitsAndPlace? body).map fun (digits, place) => decimal negative digits place

/-- The nearest double. -/
def Literal.toFloat : Literal → Float
  | decimal negative digits place =>
    let x := scientific digits place
    if negative then -x else x
  | infinity negative => if negative then -(1 / 0) else 1 / 0
  | notNumber => 0 / 0

/-- The nearest number of single precision. -/
def Literal.toSingle : Literal → Float32
  | decimal negative digits place =>
    let x : Float32 :=
      if digits = 0 ∨ place < -(400 + (Nat.toDigits 10 digits).length : Int) then 0
      else if place < 0 then Float32.ofScientific digits true (-place).toNat
      else if 400 < place then 1 / 0
      else Float32.ofScientific digits false place.toNat
    if negative then -x else x
  | infinity negative => if negative then -(1 / 0) else 1 / 0
  | notNumber => 0 / 0

end ScriptHost.Decimal
