import ScriptHost.Script.Library.Json
import ScriptHost.Text.Utf8

/-!
# Functions of the global object

Evaluation of source, addresses, and what else stands alone.
-/

namespace ScriptHost.Script.Library

open Run

/-- A byte as two hexadecimal digits. -/
def hexByte (n : Nat) : Units :=
  let digits := (Nat.toDigits 16 n).map Char.toUpper
  charUnits (if digits.length < 2 then '0' :: digits else digits)

/-- Characters that addresses never write as bytes. -/
def plainCharacters : String :=
  "ABCDEFGHIJKLMNOPQRSTUVWXYZabcdefghijklmnopqrstuvwxyz0123456789-_.!~*'()"

/-- Characters that separate the parts of an address. -/
def separatingCharacters : String := ";/?:@&=+$,#"

/-- Text with all but some characters written as bytes; nothing if a half lacks its partner. -/
def encodeText (plain : List Char) (text : Units) : Option Units :=
  match Text.pairUnits text with
  | .error _ => none
  | .ok s => some (s.toList.flatMap fun c =>
      if plain.contains c then Text.unitsOfCode c.toNat
      else (String.utf8EncodeChar c).flatMap fun b => 0x25 :: hexByte b.toNat)

/-- The bytes that are written at the front, and what follows. -/
def takeBytes : (fuel : Nat) → List Char → Option (List UInt8 × List Char)
  | 0, cs => some ([], cs)
  | fuel + 1, cs =>
    match cs with
    | '%' :: a :: b :: rest => do
      let n ← hexCode? [a, b]
      let (bytes, behind) ← takeBytes fuel rest
      some (UInt8.ofNat n :: bytes, behind)
    | '%' :: _ => none
    | cs => some ([], cs)

/-- The text that an address stands for, but for the characters that stay written as bytes; `fuel`
bounds its length. -/
def decodeText (kept : List Char) : (fuel : Nat) → List Char → Option (List Char)
  | 0, _ => some []
  | fuel + 1, cs =>
    match cs with
    | [] => some []
    | '%' :: _ => do
      let (bytes, rest) ← takeBytes cs.length cs
      match Text.readUtf8 bytes with
      | .error _ => none
      | .ok chars => do
        let others ← decodeText kept fuel rest
        let written := chars.flatMap fun c =>
          if kept.contains c then '%' :: (hexByte c.toNat).map fun u => Char.ofNat u.toNat else [c]
        some (written ++ others)
    | c :: rest => (decodeText kept fuel rest).map (c :: ·)

/-- Encodes the text of an argument. -/
def encodeArgument (plain : String) (i : Invocation) : Run ScriptValue := do
  match encodeText plain.toList (← toText (i.arg 0)) with
  | some text => pure (.string text)
  | none => throwNew .uriError "trying to encode an invalid string"

/-- Decodes the text of an argument. -/
def decodeArgument (kept : String) (i : Invocation) : Run ScriptValue := do
  let cs := Text.pairUnitsLossyChars (← toText (i.arg 0))
  match decodeText kept.toList (cs.length + 1) cs with
  | some chars => pure (.string (charUnits chars))
  | none => throwNew .uriError "invalid escape character found"

/-- A new promise, settled or not: what is to happen later never does. -/
def newPromise (target : Option Ref) : Run Ref := do
  let proto ← prototypeFor target .promisePrototype
  allocate (.empty (some proto) .ordinary)

/-- A promise whose executor has been run. -/
def makePromise (i : Invocation) : Run ScriptValue := do
  if i.target.isNone then throwTypeError "Promise NewTarget cannot be undefined"
  let executor ← requireFunction "Promise executor is not callable" (i.arg 0)
  let promise ← newPromise i.target
  let resolver ← allocate (builtinObject (.globals .ignore) "" 1 false)
  let rejecter ← allocate (builtinObject (.globals .ignore) "" 1 false)
  match ← (Run.call executor .undefined [.object resolver, .object rejecter]).attempt with
  | .error (.limit message frames) => leave (.limit message frames)
  | _ => pure (.object promise)

end ScriptHost.Script.Library

namespace ScriptHost.Script

open Run Library

/-- A function of the global object. -/
def GlobalOp.run (op : GlobalOp) (i : Invocation) : Run ScriptValue :=
  match op with
  | .stringify => Library.stringify i
  | .parseJson => Library.parseJson i
  | evaluate => do
    match i.arg 0 with
    | .string text => evaluateText text none
    | v => pure v
  | isFinite => do
    let x ← toNumber (i.arg 0)
    flag (!x.isNaN && !x.isInf)
  | isNotNumber => do flag (← toNumber (i.arg 0)).isNaN
  | encodeComponent => encodeArgument plainCharacters i
  | encodeWhole => encodeArgument (plainCharacters ++ separatingCharacters) i
  | decodeComponent => decodeArgument "" i
  | decodeWhole => decodeArgument separatingCharacters i
  | .makePromise => Library.makePromise i
  | promiseThen => ScriptValue.object <$> newPromise none
  | promiseSettle => ScriptValue.object <$> newPromise none
  | ignore => pure .undefined
  | makePlain => do
    match i.target with
    | none => throwTypeError "not a callable function"
    | some target =>
      let proto ← prototypeFor (some target) .objectPrototype
      ScriptValue.object <$> allocate (.empty (some proto) .ordinary)
  | refuse =>
    throwTypeError ("'caller', 'callee', and 'arguments' properties may not be accessed on strict " ++
      "mode functions or the arguments objects for calls to them")

end ScriptHost.Script
