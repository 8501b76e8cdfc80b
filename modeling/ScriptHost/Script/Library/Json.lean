import ScriptHost.Script.Data
import ScriptHost.Script.Library.Numbers

/-!
# Data as text

Writing values as text and reading them back, in the notation of object literals.

* writing: `stringify`, one value after the other with the objects around it,
  so that cycles are refused;
* reading: `parseJson`, which reads the text first and makes objects afterwards.
-/

namespace ScriptHost.Script.Library

open Run

/-! ## Writing -/

/-- A unit inside quotes. -/
def quotedUnit (u : UInt16) : Units :=
  let hex : Units :=
    let digits := Nat.toDigits 16 u.toNat
    Text.units "\\u" ++ charUnits (List.replicate (4 - digits.length) '0' ++ digits)
  match u.toNat with
  | 0x22 => Text.units "\\\""
  | 0x5C => Text.units "\\\\"
  | 0x08 => Text.units "\\b"
  | 0x0C => Text.units "\\f"
  | 0x0A => Text.units "\\n"
  | 0x0D => Text.units "\\r"
  | 0x09 => Text.units "\\t"
  | n => if n < 0x20 || Text.isHalf u then hex else [u]

/-- Units inside quotes; a half without its partner is written as an escape. -/
def quotedBody : Units → Units
  | [] => []
  | [u] => quotedUnit u
  | u :: v :: rest =>
    if Text.isHigh u && Text.isLow v then u :: v :: quotedBody rest
    else quotedUnit u ++ quotedBody (v :: rest)

/-- Text in quotes. -/
def quotedText (text : Units) : Units := 0x22 :: quotedBody text ++ [0x22]

/-- How values are written. -/
structure Writing where
  replacer : Option Ref
  /-- The only keys that are written, if they are given. -/
  keys : Option (List Units)
  gap : Units

/-- Pieces between brackets, on lines of their own if there is a gap. -/
def bracketed (opening closing : UInt16) (gap indent : Units) (pieces : List Units) : Units :=
  if pieces.isEmpty then [opening, closing]
  else if gap.isEmpty then opening :: [0x2C].intercalate pieces ++ [closing]
  else
    let inner := 0x0A :: (indent ++ gap)
    opening :: inner ++ (0x2C :: inner).intercalate pieces ++ 0x0A :: indent ++ [closing]

/-- The value to be written: what its own method and the replacer make of it. -/
def preparedValue (w : Writing) (holder : Ref) (key : Units) (v : ScriptValue) :
    Run ScriptValue := do
  let v ← match v with
    | .object _ | .bigint _ =>
      let f ← getValue v (.ofString "toJSON")
      if ← isCallable f then callValue f v [.string key] else pure v
    | v => pure v
  let v ← match w.replacer with
    | some f => Run.call f (.object holder) [.string key, v]
    | none => pure v
  match v with
  | .object ref =>
    match ← kindOf ref with
    | .wrapper (.number _) => ScriptValue.number <$> toNumber v
    | .wrapper (.string _) => ScriptValue.string <$> toText v
    | .wrapper (.boolean b) => pure (.boolean b)
    | .wrapper (.bigint n) => pure (.bigint n)
    | _ => pure v
  | v => pure v

/-- Writes a value that `holder` holds under a key; nothing is written for functions and missing
values.  `fuel` bounds the nesting. -/
def writeValue (w : Writing) :
    (fuel : Nat) → (around : List Ref) → (indent : Units) → (holder : Ref) →
    (key : Units) → ScriptValue → Run (Option Units)
  | 0, _, _, _, _, _ => default
  | fuel + 1, around, indent, holder, key, v => do
    match ← preparedValue w holder key v with
    | .null => pure (some (Text.units "null"))
    | .boolean b => pure (some (Text.units (if b then "true" else "false")))
    | .string text => pure (some (quotedText text))
    | .number x => pure (some (if x.isNaN || x.isInf then Text.units "null" else numeral x))
    | .bigint _ => throwTypeError "cannot serialize bigint to JSON"
    | .undefined | .symbol _ => pure none
    | .object ref =>
      if ← isCallable (.object ref) then pure none
      else if around.contains ref then throwTypeError "cyclic object value"
      else
        let inner := indent ++ w.gap
        if ← isArray (.object ref) then
          let count ← itemCount ref
          let r ← scan (α := Empty) (fun n (done : List Units) => do
            let item ← get ref (.ofNat n)
            let text ← writeValue w fuel (ref :: around) inner ref (natUnits n) item
            pure (.ok (text.getD (Text.units "null") :: done))) count 0 []
          match r with
          | .ok done => pure (some (bracketed 0x5B 0x5D w.gap indent done.reverse))
        else
          let keys ← match w.keys with
            | some keys => pure keys
            | none => do
              let own ← ownKeys ref
              let found ← foldItems (fun (done : List Units) k => do
                match k.toUnits? with
                | none => pure done
                | some text =>
                  match ← getOwn ref k with
                  | some p => pure (if p.enumerable then text :: done else done)
                  | none => pure done) own []
              pure found.reverse
          let pieces ← foldItems (fun (done : List Units) (name : Units) => do
            let item ← get ref (.ofUnits name)
            match ← writeValue w fuel (ref :: around) inner ref name item with
            | some text =>
              let colon : Units := if w.gap.isEmpty then [0x3A] else [0x3A, 0x20]
              pure ((quotedText name ++ colon ++ text) :: done)
            | none => pure done) keys []
          pure (some (bracketed 0x7B 0x7D w.gap indent pieces.reverse))

/-- How deep written values may nest. -/
def nestingLimit : Nat := 100000

/-- The keys that a list allows. -/
def allowedKeys (ref : Ref) : Run (List Units) := do
  let items ← listItems ref
  let found ← foldItems (fun (done : List Units) item => do
    match item with
    | .string text => pure (text :: done)
    | .number x => pure (numeral x :: done)
    | .object r =>
      match ← kindOf r with
      | .wrapper (.string _) | .wrapper (.number _) => do pure ((← toText item) :: done)
      | _ => pure done
    | _ => pure done) items []
  pure found.reverse.eraseDups

/-- What each level of nesting is indented by. -/
def gapOf (v : ScriptValue) : Run Units := do
  let v ← match v with
    | .object ref =>
      match ← kindOf ref with
      | .wrapper (.number _) => ScriptValue.number <$> toNumber v
      | .wrapper (.string _) => ScriptValue.string <$> toText v
      | _ => pure v
    | v => pure v
  match v with
  | .number x => pure (List.replicate (min 10 (floatInt (wholePart x)).toNat) 0x20)
  | .string text => pure (text.take 10)
  | _ => pure []

/-- Writes a value as text. -/
def stringify (i : Invocation) : Run ScriptValue := do
  let (replacer, keys) ← match i.arg 1 with
    | .object ref => do
      if ← isCallable (.object ref) then pure (some ref, none)
      else if ← isArray (.object ref) then pure (none, some (← allowedKeys ref))
      else pure (none, none)
    | _ => pure (none, none)
  let gap ← gapOf (i.arg 2)
  let holder ← newObject
  create holder (.name []) (i.arg 0)
  match ← writeValue ⟨replacer, keys, gap⟩ nestingLimit [] [] holder [] (i.arg 0) with
  | some text => pure (.string text)
  | none => pure .undefined

/-! ## Reading -/

mutual

/-- The value of data. -/
def makeData : Data → Run ScriptValue
  | .null => pure .null
  | .boolean b => pure (.boolean b)
  | .number x => pure (.number x)
  | .text units => pure (.string units)
  | .array items => do
    let values ← makeItems items
    ScriptValue.object <$> newArray values
  | .object members => do
    let ref ← newObject
    makeMembers ref members
    pure (.object ref)

/-- The values of items. -/
def makeItems : List Data → Run (List ScriptValue)
  | [] => pure []
  | item :: rest => do
    let v ← makeData item
    let others ← makeItems rest
    pure (v :: others)

/-- Gives the members to an object. -/
def makeMembers (ref : Ref) : List (Units × Data) → Run Unit
  | [] => pure ()
  | (key, item) :: rest => do
    let v ← makeData item
    modifyObject ref fun o => o.put (.ofUnits key) (.plain v)
    makeMembers ref rest

end

/-- Lets a function replace the value under a key, the values inside it first; `fuel` bounds the
nesting. -/
def revive (f : Ref) : (fuel : Nat) → (holder : Ref) → Key → Run ScriptValue
  | 0, _, _ => default
  | fuel + 1, holder, k => do
    let v ← get holder k
    match v with
    | .object ref =>
      let keys ← if ← isArray v then do
          let count ← itemCount ref
          pure ((List.range count).map Key.ofNat)
        else do
          let own ← ownKeys ref
          pure (own.filter fun k => !k.isSymbol)
      forItems keys fun inner => do
        match ← revive f fuel ref inner with
        | .undefined =>
          let _ ← deleteWith proxyOps ref inner
        | w =>
          let _ ← defineWith proxyOps ref inner (.ofProperty (.plain w))
    | _ => pure ()
    Run.call f (.object holder) [.string (k.toUnits?.getD []), v]

/-- Reads a value from text. -/
def parseJson (i : Invocation) : Run ScriptValue := do
  match Text.pairUnits (← toText (i.arg 0)) with
  | .error _ => throwNew .syntaxError "invalid utf-16: lone surrogate found"
  | .ok text =>
    match Data.ofText text.toList with
    | .error message => throwNew .syntaxError message
    | .ok data =>
      let v ← makeData data
      if ← isCallable (i.arg 1) then
        let f ← requireRef "" (i.arg 1)
        let holder ← newObject
        create holder (.name []) v
        revive f nestingLimit holder (.name [])
      else pure v

end ScriptHost.Script.Library
