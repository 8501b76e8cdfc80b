import ScriptHost.Script.Library.Objects
import ScriptHost.Text.Utf16

/-!
# Functions of functions and errors

Calling, binding and printing functions; making and printing errors.
-/

namespace ScriptHost.Script.Library

open Run

/-- The text that stands in for the source of a function with a name. -/
def sourceless (name : Units) : Units :=
  Text.units "function " ++ name ++ Text.units "() \x7b [native code] \x7d"

/-- The text of a function: its own source, or what stands in for it. -/
def functionText (ref : Ref) (f : FunctionData) : Run Units := do
  match f.behaviour with
  | .closure c => pure (c.code.info.source.getD (sourceless c.code.info.name))
  | .bound .. => pure (sourceless [])
  | _ =>
    match ← getNamed ref "name" with
    | .undefined | .null => pure (sourceless [])
    | v => sourceless <$> Run.toText v

/-- The function that stands behind bindings; `fuel` bounds their number. -/
def unbound : (fuel : Nat) → Ref → Run Ref
  | 0, ref => pure ref
  | fuel + 1, ref => do
    match ← kindOf ref with
    | .function ⟨.bound target _ _, _, _⟩ => unbound fuel target
    | _ => pure ref

/-- The name of a function as its property gives it. -/
def nameProperty (ref : Ref) : Run Units := do
  match ← getNamed ref "name" with
  | .string text => pure text
  | _ => pure []

/-- The number of parameters that a bound function still takes. -/
def boundLength (ref : Ref) (bound : Nat) : Run ScriptValue := do
  if ← Run.hasOwn ref lengthKey then
    match ← get ref lengthKey with
    | .number x =>
      if x.isInf then pure (.number (if 0 < x then infinity else 0))
      else
        let n := floatInt (wholePart x) - (bound : Int)
        pure (.number (if n < 0 then 0 else intFloat n))
    | _ => pure (.number 0)
  else pure (.number 0)

/-- Makes a function from the texts of its parameters and its body. -/
def functionFromTexts (params body : Units) : Run ScriptValue := do
  let lineEnd : Units := [0x0A]
  let code := readFunction .normal (Text.units "anonymous") (Text.pairUnitsLossyChars params)
    (Text.pairUnitsLossyChars (lineEnd ++ body ++ lineEnd))
  match code with
  | .error message => throwNew .syntaxError message
  | .ok code =>
    ScriptValue.object <$>
      makeFunctionObject ⟨globalScope, false, "unknown at "⟩ code code.info.name none

/-- The class of error that a frame below the constructor's own makes, and where. -/
def callerOrigin : Run (Option Origin) := read fun s =>
  match s.frames with
  | _ :: caller :: _ => caller.origin?
  | _ => none

/-- Copies the cause from the options of an error. -/
def installCause (ref : Ref) (options : ScriptValue) : Run Unit := do
  match options with
  | .object o =>
    let k := Key.ofString "cause"
    if ← has o k then
      let v ← get o k
      modifyObject ref fun x => x.put k (.hidden v)
  | _ => pure ()

/-- Makes an error. -/
def makeError (cls : ErrorClass) (i : Invocation) : Run ScriptValue := do
  let isAggregate := cls = .aggregateError
  let proto ← prototypeFor i.target cls.prototype
  let message := i.arg (if isAggregate then 1 else 0)
  let origin ← callerOrigin
  let ref ← allocate (.empty (some proto) (.error origin))
  match message with
  | .undefined => pure ()
  | message =>
    let text ← toText message
    modifyObject ref fun o => o.put (.ofString "message") (.hidden (.string text))
  installCause ref (i.arg (if isAggregate then 2 else 1))
  if isAggregate then
    let items ← iterableItems (i.arg 0)
    let errors ← newArray items
    modifyObject ref fun o => o.put (.ofString "errors") (.hidden (.object errors))
  pure (.object ref)

/-- The text of an error: its name and its message. -/
def errorText (this : ScriptValue) : Run ScriptValue := do
  let ref ← requireRef "'this' is not an Object" this
  let name ← match ← getNamed ref "name" with
    | .undefined => pure (Text.units "Error")
    | v => Run.toText v
  let message ← match ← getNamed ref "message" with
    | .undefined => pure []
    | v => Run.toText v
  pure (.string (if name.isEmpty then message
    else if message.isEmpty then name
    else name ++ Text.units ": " ++ message))

end ScriptHost.Script.Library

namespace ScriptHost.Script

open Run Library

/-- A function of functions. -/
def FunctionOp.run (op : FunctionOp) (i : Invocation) : Run ScriptValue :=
  match op with
  | construct => do
    let texts ← foldItems (fun (done : List Units) v => do pure ((← Run.toText v) :: done))
      i.args []
    match texts with
    | [] => functionFromTexts [] []
    | body :: params => functionFromTexts ([0x2C].intercalate params.reverse) body
  | nothing => pure .undefined
  | apply => do
    let f ← callee i.this
    let args ← argumentList (i.arg 1)
    Run.call f (i.arg 0) args
  | call => do
    let f ← callee i.this
    Run.call f (i.arg 0) (i.args.drop 1)
  | bind => do
    let f ← requireFunction "cannot bind \x60this\x60 without a \x60[[Call]]\x60 internal method"
      i.this
    let args := i.args.drop 1
    let constructs ← read fun s => s.heap.isConstructor f
    let length ← boundLength f args.length
    let name := Text.units "bound " ++ (← nameProperty f)
    let proto ← prototype f
    let ref ← allocate ⟨proto, true, .function ⟨.bound f (i.arg 0) args,
      nameText name, constructs⟩, ∅,
      [(lengthKey, .readOnly length), (.ofString "name", .readOnly (.string name))]⟩
    pure (.object ref)
  | .toText => do
    match i.this with
    | .object ref =>
      match ← kindOf ref with
      | .function f => ScriptValue.string <$> functionText ref f
      | .proxy _ true _ => pure (.string (sourceless []))
      | _ => throwTypeError "not a function"
    | _ => throwTypeError "not a function"
  | hasInstance => do
    match i.this with
    | .object ref =>
      if ← isCallable i.this then
        let real ← unbound 1024 ref
        if real = ref then flag (← isInstanceOrdinary ref (i.arg 0))
        else flag (← isInstance (i.arg 0) (.object real))
      else flag false
    | _ => flag false
where
  /-- The function that is to be called. -/
  callee (v : ScriptValue) : Run Ref := do
    let shown ← read fun s => describeValue s v
    requireFunction (String.ofList (unitChars shown) ++ " is not a function") v

/-- A function of errors. -/
def ErrorOp.run (op : ErrorOp) (i : Invocation) : Run ScriptValue :=
  match op with
  | construct cls => makeError cls i
  | .toText => errorText i.this
  | readTrace => do
    match i.this with
    | .object ref =>
      match ← kindOf ref with
      | .error _ => do pure (.string (← read fun s => describeValue s i.this))
      | _ => pure .undefined
    | _ => pure .undefined
  | writeTrace => do
    match i.this with
    | .object ref =>
      define ref (.ofString "stack") (.ofProperty (.hidden (i.arg 0)))
      pure .undefined
    | _ => pure .undefined

end ScriptHost.Script
