import ScriptHost.Script.Library.Functions

/-!
# Functions of numbers and other primitives

Numbers, truth values, symbols, big integers, and arithmetic functions.
-/

namespace ScriptHost.Script.Library

open Run

/-- The primitive behind a receiver, if `pick` accepts it. -/
def primitiveReceiver {α : Type} (this : ScriptValue) (pick : ScriptValue → Option α)
    (message : String) : Run α := do
  let found ← match this with
    | .object ref =>
      match ← kindOf ref with
      | .wrapper v => pure (pick v)
      | _ => pure none
    | v => pure (pick v)
  match found with
  | some a => pure a
  | none => throwTypeError message

/-- The number behind a receiver. -/
def thisNumber (this : ScriptValue) : Run Float :=
  primitiveReceiver this (fun v => match v with
    | .number x => some x
    | _ => none) "'this' is not a number"

/-- The truth value behind a receiver. -/
def thisBoolean (this : ScriptValue) : Run Bool :=
  primitiveReceiver this (fun v => match v with
    | .boolean b => some b
    | _ => none) "'this' is not a boolean"

/-- The symbol behind a receiver. -/
def thisSymbol (this : ScriptValue) : Run Nat :=
  primitiveReceiver this (fun v => match v with
    | .symbol id => some id
    | _ => none) "'this' is not a Symbol"

/-- The integer behind a receiver. -/
def thisBigint (this : ScriptValue) : Run Int :=
  primitiveReceiver this (fun v => match v with
    | .bigint n => some n
    | _ => none) "'this' is not a BigInt"

/-- The exponent at the front of a text, if a digit stands in it. -/
def frontExponent (cs : List Char) : List Char :=
  let signed (sign rest : List Char) : List Char :=
    let digits := rest.takeWhile Char.isDigit
    if digits.isEmpty then [] else 'e' :: sign ++ digits
  match cs with
  | 'e' :: '-' :: rest | 'E' :: '-' :: rest => signed ['-'] rest
  | 'e' :: '+' :: rest | 'E' :: '+' :: rest => signed [] rest
  | 'e' :: rest | 'E' :: rest => signed [] rest
  | _ => []

/-- The longest decimal at the front of a text. -/
def frontDecimal (cs : List Char) : List Char :=
  let whole := cs.takeWhile Char.isDigit
  let rest := cs.dropWhile Char.isDigit
  let (part, rest) := match rest with
    | '.' :: r => ('.' :: r.takeWhile Char.isDigit, r.dropWhile Char.isDigit)
    | r => ([], r)
  whole ++ part ++ frontExponent rest

/-- The number at the front of a text, not a number if there is none. -/
def readFloat (text : Units) : Float :=
  let unsigned (cs : List Char) : Float :=
    if "Infinity".toList.isPrefixOf cs then infinity
    else (Decimal.readDecimal (frontDecimal cs)).getD notNumber
  match unitChars (Script.trimStart text) with
  | '-' :: rest => -(unsigned rest)
  | '+' :: rest => unsigned rest
  | cs => unsigned cs

/-- The integer at the front of a text in a base, not a number if there is none. -/
def readInteger (text : Units) (radix : Int) : Float :=
  let (negative, cs) := match unitChars (Script.trimStart text) with
    | '-' :: rest => (true, rest)
    | '+' :: rest => (false, rest)
    | cs => (false, cs)
  if radix ≠ 0 && (radix < 2 || 36 < radix) then notNumber
  else
    let (base, cs) := match cs with
      | '0' :: x :: rest =>
        if (x = 'x' || x = 'X') && (radix = 0 || radix = 16) then (16, rest)
        else (if radix = 0 then 10 else radix.toNat, '0' :: x :: rest)
      | cs => (if radix = 0 then 10 else radix.toNat, cs)
    let digits := cs.takeWhile fun c => match digitValue? c with
      | some d => d < base
      | none => false
    match digitsIn? base digits with
    | some n => if negative then -(Float.ofNat n) else Float.ofNat n
    | none => notNumber

/-- The number is whole. -/
def isWhole (x : Float) : Bool := !x.isNaN && !x.isInf && x.floor == x

/-- A count of digits that a function takes, within bounds. -/
def digitCount (v : ScriptValue) (low high : Int) (message : String) : Run Nat := do
  let x ← toInteger v
  let n := floatInt x
  if n < low || high < n then throwRangeError message
  pure n.toNat

/-- The integer of a value, which may be a whole number. -/
def bigintOf (v : ScriptValue) : Run Int := do
  match ← toPrimitive .number v with
  | .number x =>
    if isWhole x then pure (exactInt x)
    else throwRangeError ("cannot convert " ++ nameText (numeral x) ++ " to a BigInt")
  | v => toBigint v

/-- An integer in a base. -/
def bigintText (n : Int) (base : Nat) : Units :=
  let digits := digitsIn base n.natAbs
  charUnits (if n < 0 then '-' :: digits else digits)

/-- The text of a symbol. -/
def symbolText (id : Nat) : Run Units := read fun s => symbolUnits s id

/-- A new symbol. -/
def newSymbol (description : Option Units) : Run Nat := change fun s =>
  (s.symbols.size, { s with symbols := s.symbols.push description })

end ScriptHost.Script.Library

namespace ScriptHost.Script

open Run Library

/-- A function of numbers. -/
def NumberOp.run (op : NumberOp) (i : Invocation) : Run ScriptValue :=
  match op with
  | construct => do
    let x ← match i.args with
      | [] => pure 0
      | v :: _ =>
        match ← toNumeric v with
        | .number x => pure x
        | .bigint n => pure (intFloat n)
    match i.target with
    | none => pure (.number x)
    | some target =>
      let proto ← prototypeFor (some target) .numberPrototype
      ScriptValue.object <$> allocate (wrapper proto (.number x))
  | isFinite => flag (match i.arg 0 with
    | .number x => !x.isNaN && !x.isInf
    | _ => false)
  | isInteger => flag (match i.arg 0 with
    | .number x => isWhole x
    | _ => false)
  | isNotNumber => flag (match i.arg 0 with
    | .number x => x.isNaN
    | _ => false)
  | isSafeInteger => flag (match i.arg 0 with
    | .number x => isWhole x && x.abs ≤ 9007199254740991
    | _ => false)
  | .readFloat => do pure (.number (Library.readFloat (← Run.toText (i.arg 0))))
  | .readInteger => do
    let text ← Run.toText (i.arg 0)
    let radix := signedWord (wordOf (← toNumber (i.arg 1)))
    pure (.number (Library.readInteger text radix))
  | toExponential => do
    let x ← thisNumber i.this
    let places ← match i.arg 0 with
      | .undefined => pure none
      | v => some <$> digitCount v 0 100 "toExponential() argument must be between 0 and 100"
    pure (.string (if x.isNaN || x.isInf then numeral x else exponentNumeral x places))
  | toFixed => do
    let x ← thisNumber i.this
    let places ← digitCount (i.arg 0) 0 100 "toFixed() digits argument must be between 0 and 100"
    pure (.string (if x.isNaN || x.isInf || 1e21 ≤ x.abs then numeral x else fixedNumeral x places))
  | toPrecision => do
    let x ← thisNumber i.this
    match i.arg 0 with
    | .undefined => pure (.string (numeral x))
    | v =>
      if x.isNaN || x.isInf then pure (.string (numeral x))
      else
        let count ← digitCount v 1 100
          "precision must be an integer at least 1 and no greater than 100"
        pure (.string (precisionNumeral x count))
  | toText => do
    let x ← thisNumber i.this
    let base ← match i.arg 0 with
      | .undefined => pure 10
      | v => digitCount v 2 36 "radix must be an integer at least 2 and no greater than 36"
    pure (.string (numeralIn base x))
  | valueOf => ScriptValue.number <$> thisNumber i.this

/-- A function of truth values, symbols and big integers. -/
def PrimitiveOp.run (op : PrimitiveOp) (i : Invocation) : Run ScriptValue :=
  match op with
  | makeBoolean => do
    let b := truth (i.arg 0)
    match i.target with
    | none => flag b
    | some target =>
      let proto ← prototypeFor (some target) .booleanPrototype
      ScriptValue.object <$> allocate (wrapper proto (.boolean b))
  | booleanText => do pure (textValue (if ← thisBoolean i.this then "true" else "false"))
  | booleanValue => ScriptValue.boolean <$> thisBoolean i.this
  | makeSymbol => do
    if i.target.isSome then throwTypeError "Symbol is not a constructor"
    let description ← match i.arg 0 with
      | .undefined => pure none
      | v => some <$> toText v
    ScriptValue.symbol <$> newSymbol description
  | symbolFor => do
    let text ← toText (i.arg 0)
    match ← read fun s => s.registered.lookup text with
    | some id => pure (.symbol id)
    | none =>
      let id ← newSymbol (some text)
      update fun s => { s with registered := (text, id) :: s.registered }
      pure (.symbol id)
  | symbolKey => do
    match i.arg 0 with
    | .symbol id => do
      match ← read fun s => s.registered.find? fun entry => entry.2 = id with
      | some entry => pure (.string entry.1)
      | none => pure .undefined
    | _ => throwTypeError "Symbol.keyFor: sym is not a symbol"
  | .symbolText => do pure (.string (← Library.symbolText (← thisSymbol i.this)))
  | symbolValue => ScriptValue.symbol <$> thisSymbol i.this
  | symbolDescription => do
    let id ← thisSymbol i.this
    match ← read fun s => s.symbols.getD id none with
    | some text => pure (.string text)
    | none => pure .undefined
  | makeBigint => do
    if i.target.isSome then throwTypeError "BigInt is not a constructor"
    ScriptValue.bigint <$> bigintOf (i.arg 0)
  | .bigintText => do
    let n ← thisBigint i.this
    let base ← match i.arg 0 with
      | .undefined => pure 10
      | v => digitCount v 2 36 "radix must be an integer at least 2 and no greater than 36"
    pure (.string (Library.bigintText n base))
  | bigintValue => ScriptValue.bigint <$> thisBigint i.this
  | bigintWord isSigned => do
    let x ← toInteger (i.arg 0)
    if x < 0 || 9007199254740991 < x then throwRangeError "Index must be between 0 and  2^53 - 1"
    let n ← toBigint (i.arg 1)
    -- an integer of fewer bits stays as it is, however many are asked for
    let room := (floatInt x).toNat
    pure (.bigint (if 0 ≤ n && n.natAbs.log2 + 1 < room then n
      else wrapInt (min room 1048576) isSigned n))

end ScriptHost.Script
