import ScriptHost.Script.Conversion

/-!
# Operators

Operators on values.  Numbers and big integers do not mix.

* arithmetic: `add`, `arithmetic`, `negate`, `complement`, `step`;
* comparisons: `lessThan`, `compareOrder`;
* all of them: `applyUnary`, `applyBinary`.
-/

namespace ScriptHost.Script

open Run

/-- A number, or a big integer. -/
inductive Numeric
  | number (x : Float)
  | bigint (n : Int)

namespace Numeric

def toValue : Numeric → ScriptValue
  | number x => .number x
  | bigint n => .bigint n

end Numeric

/-- The numeric value of a primitive. -/
def numericOfPrimitive : ScriptValue → Run Numeric
  | .bigint n => pure (.bigint n)
  | v => Numeric.number <$> primitiveNumber v

/-- The numeric value that a value turns into. -/
def toNumeric (v : ScriptValue) : Run Numeric := do
  match v with
  | .number x => pure (.number x)
  | v => numericOfPrimitive (← toPrimitive .number v)

/-- A power; one to an infinite power is not a number. -/
def floatPower (x y : Float) : Float :=
  if y.isNaN then notNumber
  else if (x == 1 || x == -1) && y.isInf then notNumber
  else x.pow y

/-- A power with a natural exponent by repeated squaring; each product is rounded.  `fuel` bounds
the bits of the exponent. -/
def squaringPower : (fuel : Nat) → (x : Float) → (n : Nat) → (product : Float) → Float
  | 0, _, _, product => product
  | fuel + 1, x, n, product =>
    let product := if n % 2 = 1 then product * x else product
    if n / 2 = 0 then product else squaringPower fuel (x * x) (n / 2) product

/-- The integer of 32 bits that a number is; nothing for other numbers and the negative zero. -/
def smallInteger? (x : Float) : Option Int :=
  let n := signedWord (wordOf x)
  if intFloat n == x && !(x == 0 && Decimal.isNegative x) then some n else none

/-- What the power operator gives: integers of 32 bits are multiplied,
other numbers are raised at once. -/
def powerOf (x y : Float) : Float :=
  match smallInteger? x, smallInteger? y with
  | some a, some b =>
    let exact := if 0 ≤ b then Int.pow a b.toNat else 0
    if 0 ≤ b && exact.natAbs < 0x80000000 then intFloat exact
    else
      let power := squaringPower 32 x b.natAbs 1
      if b < 0 then 1 / power else power
  | _, _ => floatPower x y

/-- An integer shifted to the left, or to the right by a negative count. -/
def shiftInt (n count : Int) : Int :=
  if 0 ≤ count then n * Nat.pow 2 count.toNat else n.fdiv (Nat.pow 2 (-count).toNat)

/-- Bits of two integers in two's complement joined by a function on words of `width` bits. -/
def joinBits (f : Nat → Nat → Nat) (a b : Int) : Int :=
  let width := max a.natAbs.log2 b.natAbs.log2 + 2
  let size : Int := Nat.pow 2 width
  let word := f (a.emod size).toNat (b.emod size).toNat
  if 2 * (word : Int) < size then word else (word : Int) - size

/-- Arithmetic on two numbers. -/
def numberArithmetic (op : BinaryOp) (x y : Float) : Float :=
  let word (f : UInt32 → UInt32 → UInt32) : Float := intFloat (signedWord (f (wordOf x) (wordOf y)))
  let count := (wordOf y) % 32
  match op with
  | .add => x + y
  | .subtract => x - y
  | .multiply => x * y
  | .divide => x / y
  | .remainder => Decimal.remainder x y
  | .power => powerOf x y
  | .bitAnd => word (· &&& ·)
  | .bitOr => word (· ||| ·)
  | .bitXor => word (· ^^^ ·)
  | .shiftLeft => intFloat (signedWord (wordOf x <<< count))
  | .shiftRight => intFloat ((signedWord (wordOf x)).fdiv (Nat.pow 2 count.toNat))
  | .shiftRightUnsigned => Float.ofNat (wordOf x >>> count).toNat
  | _ => notNumber

/-- Arithmetic on two big integers. -/
def bigintArithmetic (op : BinaryOp) (a b : Int) : Run Int :=
  match op with
  | .add => pure (a + b)
  | .subtract => pure (a - b)
  | .multiply => pure (a * b)
  | .divide => if b = 0 then throwRangeError "BigInt division by zero" else pure (a.tdiv b)
  | .remainder => if b = 0 then throwRangeError "BigInt division by zero" else pure (a.tmod b)
  | .power =>
    if b < 0 then throwRangeError "BigInt negative exponent"
    else if 1000000 < b then throwRangeError "Maximum BigInt size exceeded"
    else pure (a.pow b.toNat)
  | .bitAnd => pure (joinBits (· &&& ·) a b)
  | .bitOr => pure (joinBits (· ||| ·) a b)
  | .bitXor => pure (joinBits (· ^^^ ·) a b)
  | .shiftLeft | .shiftRight =>
    let count := if op = .shiftLeft then b else -b
    if 1000000 < count then throwRangeError "Maximum BigInt size exceeded"
    else pure (shiftInt a count)
  | .shiftRightUnsigned => throwTypeError "BigInts have no unsigned right shift, use >> instead"
  | _ => pure 0

/-- Arithmetic on two values. -/
def arithmetic (op : BinaryOp) (v w : ScriptValue) : Run ScriptValue := do
  match v, w with
  | .number x, .number y => pure (.number (numberArithmetic op x y))
  | v, w =>
    let a ← toNumeric v
    let b ← toNumeric w
    match a, b with
    | .number x, .number y => pure (.number (numberArithmetic op x y))
    | .bigint m, .bigint n => ScriptValue.bigint <$> bigintArithmetic op m n
    | _, _ => throwTypeError "cannot mix BigInt and other types, use explicit conversions"

/-- Adds numbers, or joins texts if either side is one. -/
def add (v w : ScriptValue) : Run ScriptValue := do
  match v, w with
  | .number x, .number y => pure (.number (x + y))
  | v, w =>
    let a ← toPrimitive .none v
    let b ← toPrimitive .none w
    match a, b with
    | .string s, b => pure (.string (s ++ (← primitiveText b)))
    | a, .string t => pure (.string ((← primitiveText a) ++ t))
    | a, b => arithmetic .add a b

/-- The first text comes before the second, unit by unit. -/
def textLess : Units → Units → Bool
  | [], [] => false
  | [], _ :: _ => true
  | _ :: _, [] => false
  | u :: us, v :: vs => u < v || (u = v && textLess us vs)

/-- An integer is less than a number, which is a number. -/
def bigintLessNumber (n : Int) (x : Float) : Bool :=
  if x.isInf then 0 < x else
    let (num, den) := magnitudeFraction x
    let signed : Int := if x < 0 then -(num : Int) else num
    n * den < signed

/-- A number, which is a number, is less than an integer. -/
def numberLessBigint (x : Float) (n : Int) : Bool :=
  if x.isInf then x < 0 else
    let (num, den) := magnitudeFraction x
    let signed : Int := if x < 0 then -(num : Int) else num
    signed < n * den

/-- The first primitive is less than the second; nothing if they cannot be ordered. -/
def primitiveLess (v w : ScriptValue) : Run (Option Bool) := do
  match v, w with
  | .string s, .string t => pure (some (textLess s t))
  | .bigint n, .string t => pure ((bigintOfText? t).map fun k => n < k)
  | .string t, .bigint n => pure ((bigintOfText? t).map fun k => k < n)
  | v, w =>
    match ← numericOfPrimitive v, ← numericOfPrimitive w with
    | .number x, .number y => pure (if x.isNaN || y.isNaN then none else some (x < y))
    | .bigint m, .bigint n => pure (some (m < n))
    | .bigint n, .number x => pure (if x.isNaN then none else some (bigintLessNumber n x))
    | .number x, .bigint n => pure (if x.isNaN then none else some (numberLessBigint x n))

/-- Orders two values by one of the four comparisons. -/
def compareOrder (op : BinaryOp) (v w : ScriptValue) : Run Bool := do
  let a ← toPrimitive .number v
  let b ← toPrimitive .number w
  match op with
  | .less => pure ((← primitiveLess a b).getD false)
  | .greater => pure ((← primitiveLess b a).getD false)
  | .lessEqual => pure (!(← primitiveLess b a).getD true)
  | _ => pure (!(← primitiveLess a b).getD true)

/-- The value is an instance of what `constructor` makes. -/
def isInstance (v constructor : ScriptValue) : Run Bool := do
  match constructor with
  | .object ref =>
    match ← method constructor WellKnown.hasInstance.key with
    | some f => pure (truth (← call f constructor [v]))
    | none =>
      if ← isCallable constructor then isInstanceOrdinary ref v
      else throwTypeError "right-hand side of 'instanceof' is not callable"
  | w =>
    throwTypeError ("right-hand side of 'instanceof' should be an object, got \x60" ++
      (← typeText w) ++ "\x60")

/-- A property under the key `v` exists in `w`. -/
def isMember (v w : ScriptValue) : Run Bool := do
  match w with
  | .object ref => has ref (← toKey v)
  | w =>
    throwTypeError ("right-hand side of 'in' should be an object, got \x60" ++
      (← typeText w) ++ "\x60")

/-- An operator on two values. -/
def applyBinary (op : BinaryOp) (v w : ScriptValue) : Run ScriptValue := do
  match op with
  | .add => add v w
  | .equal => ScriptValue.boolean <$> looselyEqual v w
  | .notEqual => do pure (.boolean !(← looselyEqual v w))
  | .same => pure (.boolean (strictlyEqual v w))
  | .notSame => pure (.boolean !(strictlyEqual v w))
  | .less | .lessEqual | .greater | .greaterEqual => ScriptValue.boolean <$> compareOrder op v w
  | .isInstance => ScriptValue.boolean <$> isInstance v w
  | .isMember => ScriptValue.boolean <$> isMember v w
  | op => arithmetic op v w

/-- A numeric value and a small integer. -/
def step (n : Numeric) (delta : Int) : Numeric :=
  match n with
  | .number x => .number (x + intFloat delta)
  | .bigint k => .bigint (k + delta)

/-- An operator on one value. -/
def applyUnary (op : UnaryOp) (v : ScriptValue) : Run ScriptValue := do
  match op with
  | .plus => ScriptValue.number <$> toNumber v
  | .minus =>
    match ← toNumeric v with
    | .number x => pure (.number (-x))
    | .bigint n => pure (.bigint (-n))
  | .not => pure (.boolean !(truth v))
  | .complement =>
    match ← toNumeric v with
    | .number x => pure (.number (intFloat (signedWord (~~~(wordOf x)))))
    | .bigint n => pure (.bigint (-n - 1))
  | .discard => pure .undefined
  | .typeName => do pure (.string (Text.units (← typeText v)))

end ScriptHost.Script
