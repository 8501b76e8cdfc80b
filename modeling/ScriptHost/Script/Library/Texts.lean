import ScriptHost.Script.Library.Functions

/-!
# Functions of text

Text is a list of 16-bit units, and positions count units.
-/

namespace ScriptHost.Script.Library

open Run

/-- The receiver as text. -/
def receiverText (this : ScriptValue) : Run Units := do
  requireSomething this
  Run.toText this

/-- The first position from `start` on at which `part` stands. -/
def findPart (part : Units) : Units → (position : Nat) → Option Nat
  | [], position => if part.isEmpty then some position else none
  | u :: rest, position =>
    if part.isPrefixOf (u :: rest) then some position else findPart part rest (position + 1)

/-- The first position from `start` on at which `part` stands. -/
def positionOf (text part : Units) (start : Nat) : Option Nat :=
  if text.length < start then none else findPart part (text.drop start) start

/-- The last position up to `limit` at which `part` stands. -/
def lastPositionOf (text part : Units) : (limit : Nat) → Option Nat
  | 0 => if part.isPrefixOf text then some 0 else none
  | limit + 1 =>
    if part.isPrefixOf (text.drop (limit + 1)) then some (limit + 1)
    else lastPositionOf text part limit

/-- A unit in lower case. -/
def lowerUnit (u : UInt16) : UInt16 :=
  let n := u.toNat
  if (0x41 ≤ n && n ≤ 0x5A) || (0xC0 ≤ n && n ≤ 0xDE && n ≠ 0xD7) ||
      (0x391 ≤ n && n ≤ 0x3AB && n ≠ 0x3A2)
      || (0x410 ≤ n && n ≤ 0x42F) then u + 0x20
  else if 0x400 ≤ n && n ≤ 0x40F then u + 0x50
  else if ((0x100 ≤ n && n ≤ 0x137 && n ≠ 0x130) || (0x14A ≤ n && n ≤ 0x177) ||
      (0x460 ≤ n && n ≤ 0x481)
      || (0x1E00 ≤ n && n ≤ 0x1E95)) && n % 2 = 0 then u + 1
  else if ((0x139 ≤ n && n ≤ 0x148) || (0x179 ≤ n && n ≤ 0x17E)) && n % 2 = 1 then u + 1
  else if n = 0x178 then 0xFF
  else u

/-- A unit in upper case. -/
def upperUnit (u : UInt16) : Units :=
  let n := u.toNat
  if n = 0xDF then [0x53, 0x53]
  else if n = 0xB5 then [0x39C]
  else if n = 0xFF then [0x178]
  else if n = 0x3C2 then [0x3A3]
  else if (0x61 ≤ n && n ≤ 0x7A) || (0xE0 ≤ n && n ≤ 0xFE && n ≠ 0xF7) || (0x3B1 ≤ n && n ≤ 0x3CB)
      || (0x430 ≤ n && n ≤ 0x44F) then [u - 0x20]
  else if 0x450 ≤ n && n ≤ 0x45F then [u - 0x50]
  else if ((0x100 ≤ n && n ≤ 0x137 && n ≠ 0x131) || (0x14A ≤ n && n ≤ 0x177) ||
      (0x460 ≤ n && n ≤ 0x481)
      || (0x1E00 ≤ n && n ≤ 0x1E95)) && n % 2 = 1 then [u - 1]
  else if ((0x139 ≤ n && n ≤ 0x148) || (0x179 ≤ n && n ≤ 0x17E)) && n % 2 = 0 then [u - 1]
  else [u]

/-- The code point at the front of a text. -/
def frontCode : Units → Option Nat
  | [] => none
  | [u] => some u.toNat
  | u :: v :: _ => some (if Text.isHigh u && Text.isLow v then Text.pairCode u v else u.toNat)

/-- The pieces of a text between the places where a separator stands; `fuel` bounds their number. -/
def splitText (separator : Units) : (fuel : Nat) → Units → List Units
  | 0, text => [text]
  | fuel + 1, text =>
    match positionOf text separator 0 with
    | some n => text.take n :: splitText separator fuel (text.drop (n + separator.length))
    | none => [text]

/-- What a replacement text stands for at a match; `fuel` bounds its length. -/
def expandReplacement (text matched : Units) (position : Nat) : Units → Units
  | [] => []
  | 0x24 :: 0x24 :: rest => 0x24 :: expandReplacement text matched position rest
  | 0x24 :: 0x26 :: rest => matched ++ expandReplacement text matched position rest
  | 0x24 :: 0x60 :: rest => text.take position ++ expandReplacement text matched position rest
  | 0x24 :: 0x27 :: rest =>
    text.drop (position + matched.length) ++ expandReplacement text matched position rest
  | u :: rest => u :: expandReplacement text matched position rest

/-- The positions at which a part stands, none overlapping the one before; `fuel` bounds their
number. -/
def allPositions (text part : Units) : (fuel start : Nat) → List Nat
  | 0, _ => []
  | fuel + 1, start =>
    match positionOf text part start with
    | some n => n :: allPositions text part fuel (n + max 1 part.length)
    | none => []

/-- The text with the parts at some positions replaced. -/
def replaceAt (text part : Units) (replacement : ScriptValue) : List Nat → (done : Nat) → Run Units
  | [], done => pure (text.drop done)
  | n :: rest, done => do
    let piece ← do
      if ← isCallable replacement then
        Run.toText (← callValue replacement .undefined
          [.string part, lengthValue n, .string text])
      else pure (expandReplacement text part n (← Run.toText replacement))
    let others ← replaceAt text part replacement rest (n + part.length)
    pure ((text.drop done).take (n - done) ++ piece ++ others)

/-- The text padded at one end to a length. -/
def padding (i : Invocation) (text : Units) : Run Units := do
  let wanted ← toLength (i.arg 0)
  let filler ← match i.arg 1 with
    | .undefined => pure [0x20]
    | v => Run.toText v
  if wanted ≤ text.length || filler.isEmpty then pure []
  else if 536870911 < wanted then throwRangeError "Invalid string length"
  else
    let count := wanted - text.length
    pure (((List.replicate (count / filler.length + 1) filler).flatten).take count)

/-- The position that an argument means, kept within the length. -/
def clampedPosition (v : ScriptValue) (length missing : Nat) : Run Nat := do
  match v with
  | .undefined => pure missing
  | v =>
    let x ← toInteger v
    pure (if x < 0 then 0 else min length (floatInt x).toNat)

/-- The text of a primitive text or of an object that wraps one. -/
def thisText (this : ScriptValue) : Run Units := do
  match this with
  | .string text => pure text
  | .object ref =>
    match ← kindOf ref with
    | .wrapper (.string text) => pure text
    | _ => throwTypeError "'this' is not a string"
  | _ => throwTypeError "'this' is not a string"

/-- The part of a search, which must not be a pattern. -/
def plainPart (v : ScriptValue) (name : String) : Run Units := do
  match v with
  | .object ref =>
    match ← kindOf ref with
    | .regexp .. =>
      throwTypeError ("First argument to String.prototype." ++ name ++
        " must not be a regular expression")
    | _ => Run.toText v
  | v => Run.toText v

/-- A method of an argument under a symbol, if the argument is an object with one. -/
def delegated (v : ScriptValue) (symbol : WellKnown) : Run (Option Ref) := do
  match v with
  | .object _ => method v symbol.key
  | _ => pure none

/-- The units with every half that lacks its partner replaced. -/
def wellFormedUnits (text : Units) : Units := charUnits (Text.pairUnitsLossyChars text)

end ScriptHost.Script.Library

namespace ScriptHost.Script

open Run Library

/-- A function of text. -/
def StringOp.run (op : StringOp) (i : Invocation) : Run ScriptValue :=
  match op with
  | construct => do
    let text ← match i.args, i.target with
      | [], _ => pure []
      | .symbol id :: _, none => read fun s => symbolUnits s id
      | v :: _, _ => Run.toText v
    match i.target with
    | none => pure (.string text)
    | some target =>
      let proto ← prototypeFor (some target) .stringPrototype
      ScriptValue.object <$> allocate (wrapper proto (.string text))
  | raw => do
    let cooked ← toObject (i.arg 0)
    let pieces ← toObject (← getNamed cooked "raw")
    let count ← itemCount pieces
    let r ← scan (α := Empty) (fun n (done : Units) => do
      let piece ← Run.toText (← get pieces (.ofNat n))
      let value ← if n + 1 < count && n + 1 < i.args.length then Run.toText (i.arg (n + 1))
        else pure []
      pure (.ok (done ++ piece ++ value))) count 0 []
    match r with
    | .ok units => pure (.string units)
  | fromCharCode => do
    let units ← foldItems (fun (done : Units) v => do
      pure (UInt16.ofNat ((wordOf (← toNumber v)).toNat % 65536) :: done)) i.args []
    pure (.string units.reverse)
  | fromCodePoint => do
    let units ← foldItems (fun (done : Units) v => do
      let x ← toNumber v
      let quotedCode := "codepoint \x60" ++ nameText (numeral x) ++ "\x60"
      if x.isInf || !(x.floor == x) then throwRangeError (quotedCode ++ " is not an integer")
      else if x < 0 || 1114111 < x then throwRangeError (quotedCode ++ " outside of Unicode range")
      else pure ((Text.unitsOfCode x.toUInt64.toNat).reverse ++ done)) i.args []
    pure (.string units.reverse)
  | itemAt => do
    let text ← receiverText i.this
    let x ← toInteger (i.arg 0)
    let n := if x < 0 then floatInt x + (text.length : Int) else floatInt x
    if n < 0 then pure .undefined
    else pure (((text[n.toNat]?).map fun u => ScriptValue.string [u]).getD .undefined)
  | charAt => do
    let text ← receiverText i.this
    let n := floatInt (← toInteger (i.arg 0))
    if n < 0 then pure (.string []) else pure (.string ((text.drop n.toNat).take 1))
  | charCodeAt => do
    let text ← receiverText i.this
    let n := floatInt (← toInteger (i.arg 0))
    if n < 0 then pure (.number notNumber)
    else pure (.number (((text[n.toNat]?).map fun u => Float.ofNat u.toNat).getD notNumber))
  | codePointAt => do
    let text ← receiverText i.this
    let n := floatInt (← toInteger (i.arg 0))
    if n < 0 then pure .undefined
    else pure (((frontCode (text.drop n.toNat)).map lengthValue).getD .undefined)
  | concat => do
    let text ← receiverText i.this
    let texts ← foldItems (fun (done : Units) v => do pure (done ++ (← Run.toText v))) i.args text
    pure (.string texts)
  | endsWith => do
    let text ← receiverText i.this
    let part ← plainPart (i.arg 0) "endsWith"
    let stop ← clampedPosition (i.arg 1) text.length text.length
    flag (part.isSuffixOf (text.take stop))
  | includes => do
    let text ← receiverText i.this
    let part ← plainPart (i.arg 0) "includes"
    let start ← clampedPosition (i.arg 1) text.length 0
    flag (positionOf text part start).isSome
  | indexOf => do
    let text ← receiverText i.this
    let part ← Run.toText (i.arg 0)
    let start ← clampedPosition (i.arg 1) text.length 0
    pure (.number (((positionOf text part start).map Float.ofNat).getD (-1)))
  | lastIndexOf => do
    let text ← receiverText i.this
    let part ← Run.toText (i.arg 0)
    let x ← toNumber (i.arg 1)
    let limit := if x.isNaN then text.length else (floatInt (wholePart x)).toNat
    let found := if text.length < part.length then none
      else lastPositionOf text part (min limit (text.length - part.length))
    pure (.number ((found.map Float.ofNat).getD (-1)))
  | compare => do
    let text ← receiverText i.this
    let other ← Run.toText (i.arg 0)
    pure (.number (if textLess text other then -1 else if textLess other text then 1 else 0))
  | normalize => ScriptValue.string <$> receiverText i.this
  | padEnd => do
    let text ← receiverText i.this
    pure (.string (text ++ (← padding i text)))
  | padStart => do
    let text ← receiverText i.this
    pure (.string ((← padding i text) ++ text))
  | repeated => do
    let text ← receiverText i.this
    let x ← toInteger (i.arg 0)
    let count := (floatInt x).toNat
    if x < 0 || x.isInf || 536870911 < count * text.length then
      throwRangeError ("repeat count must be a positive finite number that doesn't overflow the " ++
        "maximum string length (2^32 - 1)")
    pure (.string (if text.isEmpty then [] else (List.replicate count text).flatten))
  | replaceFirst => do
    requireSomething i.this
    match ← delegated (i.arg 0) .replace with
    | some f => Run.call f (i.arg 0) [i.this, i.arg 1]
    | none =>
      let text ← receiverText i.this
      let part ← Run.toText (i.arg 0)
      let replacement ← if ← isCallable (i.arg 1) then pure (i.arg 1)
        else ScriptValue.string <$> Run.toText (i.arg 1)
      match positionOf text part 0 with
      | some n => ScriptValue.string <$> replaceAt text part replacement [n] 0
      | none => pure (.string text)
  | replaceAll => do
    let text ← receiverText i.this
    let part ← Run.toText (i.arg 0)
    let replacement ← if ← isCallable (i.arg 1) then pure (i.arg 1)
      else ScriptValue.string <$> Run.toText (i.arg 1)
    ScriptValue.string <$> replaceAt text part replacement
      (allPositions text part (text.length + 2) 0) 0
  | slice => do
    let text ← receiverText i.this
    let start ← relativeIndex (i.arg 0) text.length 0
    let stop ← relativeIndex (i.arg 1) text.length text.length
    pure (.string ((text.drop start).take (stop - start)))
  | split => do
    requireSomething i.this
    match ← delegated (i.arg 0) .split with
    | some f => Run.call f (i.arg 0) [i.this, i.arg 1]
    | none =>
      let text ← receiverText i.this
      let limit ← match i.arg 1 with
        | .undefined => pure 4294967295
        | v => do pure (wordOf (← toNumber v)).toNat
      let separator ← Run.toText (i.arg 0)
      let pieces := match i.arg 0 with
        | .undefined => [text]
        | _ =>
          if separator.isEmpty then text.map fun u => [u]
          else splitText separator (text.length + 1) text
      arrayValue ((pieces.take limit).map ScriptValue.string)
  | startsWith => do
    let text ← receiverText i.this
    let part ← plainPart (i.arg 0) "startsWith"
    let start ← clampedPosition (i.arg 1) text.length 0
    flag (part.isPrefixOf (text.drop start))
  | substring => do
    let text ← receiverText i.this
    let a ← clampedPosition (i.arg 0) text.length 0
    let b ← clampedPosition (i.arg 1) text.length text.length
    pure (.string ((text.drop (min a b)).take (max a b - min a b)))
  | toLower => do pure (.string ((← receiverText i.this).map lowerUnit))
  | .toText => ScriptValue.string <$> thisText i.this
  | toUpper => do pure (.string ((← receiverText i.this).flatMap upperUnit))
  | .trim => do pure (.string (ScriptHost.Script.trim (← receiverText i.this)))
  | .trimEnd => do pure (.string (ScriptHost.Script.trimEnd (← receiverText i.this)))
  | .trimStart => do pure (.string (ScriptHost.Script.trimStart (← receiverText i.this)))
  | iterator => do
    let text ← receiverText i.this
    ScriptValue.object <$> allocate
      (.empty (some Intrinsic.textIteratorPrototype.ref) (.textIterator text))
  | isWellFormed => do
    let text ← receiverText i.this
    flag (wellFormedUnits text = text)
  | toWellFormed => do pure (.string (wellFormedUnits (← receiverText i.this)))

end ScriptHost.Script
