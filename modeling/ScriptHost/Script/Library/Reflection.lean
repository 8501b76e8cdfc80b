import ScriptHost.Script.Library.Numbers

/-!
# Proxies, reflection and binary data

Making proxies, the operations on objects as functions, typed arrays and buffers.
-/

namespace ScriptHost.Script.Library

open Run

/-- A new proxy. -/
def makeProxy (target handler : ScriptValue) : Run Ref := do
  match target, handler with
  | .object t, .object h =>
    let calls ← read fun s => s.heap.isCallable t
    let constructs ← read fun s => s.heap.isConstructor t
    allocate (.empty none (.proxy (some (t, h)) calls constructs))
  | .object _, _ => throwTypeError "Proxy constructor called with non-object handler"
  | _, _ => throwTypeError "Proxy constructor called with non-object target"

/-- The object that an argument is. -/
def targetArgument (i : Invocation) : Run Ref := requireRef "target must be an object" (i.arg 0)

/-- The prototype that an argument is. -/
def prototypeOrNull (v : ScriptValue) : Run (Option Ref) := do
  match v with
  | .object p => pure (some p)
  | .null => pure none
  | _ => throwTypeError "proto must be an object or null"

/-- The constructor that a value is. -/
def requireConstructor (message : String) (v : ScriptValue) : Run Ref := do
  match v with
  | .object ref =>
    if ← read fun s => s.heap.isConstructor ref then pure ref else throwTypeError message
  | _ => throwTypeError message

/-- The number of bytes of an element. -/
def elementSize : ElementType → Nat
  | .int8 | .uint8 | .uint8Clamped => 1
  | .int16 | .uint16 => 2
  | .int32 | .uint32 | .float32 => 4
  | .float64 | .bigInt64 | .bigUint64 => 8

/-- The element that a new typed array is filled with. -/
def zeroElement : ElementType → ScriptValue
  | .bigInt64 | .bigUint64 => .bigint 0
  | _ => .number 0

/-- A new typed array. -/
def makeTyped (element : ElementType) (i : Invocation) : Run ScriptValue := do
  match i.target with
  | none => throwTypeError "calling a builtin TypedArray constructor without new is forbidden"
  | some target =>
    let proto ← prototypeFor (some target) .typedArrayPrototype
    let items ← match i.arg 0 with
      | .object ref =>
        match ← kindOf ref with
        | .buffer size => pure (List.replicate (size / elementSize element) (zeroElement element))
        | _ =>
          let source ← match ← method (.object ref) WellKnown.iterator.key with
            | some _ => iterableItems (.object ref)
            | none => listItems ref
          let found ← foldItems (fun (done : List ScriptValue) v => do
            pure ((← storedElement element v) :: done)) source []
          pure found.reverse
      | v =>
        let x ← toInteger v
        if x < 0 || 4294967296 < x then throwRangeError "invalid typed array length"
        pure (List.replicate (floatInt x).toNat (zeroElement element))
    let (indexed, count) := items.foldl (fun (done : Std.TreeMap Nat Property × Nat) v =>
      (done.1.insert done.2 (.plain v), done.2 + 1)) (∅, 0)
    ScriptValue.object <$> allocate ⟨some proto, true, .typedArray element count, indexed, []⟩

end ScriptHost.Script.Library

namespace ScriptHost.Script

open Run Library

/-- A function of proxies and of reflection. -/
def ReflectOp.run (op : ReflectOp) (i : Invocation) : Run ScriptValue :=
  match op with
  | .makeProxy => do
    if i.target.isNone then throwTypeError "Proxy constructor called on undefined new target"
    ScriptValue.object <$> Library.makeProxy (i.arg 0) (i.arg 1)
  | makeRevocable => do
    let proxy ← Library.makeProxy (i.arg 0) (i.arg 1)
    let revoker ← allocate (builtinObject (.reflect (.revoke proxy)) "" 0 false)
    let answer ← newObject
    createNamed answer "proxy" (.object proxy)
    createNamed answer "revoke" (.object revoker)
    pure (.object answer)
  | revoke proxy => do
    modifyObject proxy fun o =>
      match o.kind with
      | .proxy _ calls constructs => { o with kind := .proxy none calls constructs }
      | _ => o
    pure .undefined
  | apply => do
    let f ← requireFunction "target must be a function" (i.arg 0)
    let args ← listItems (← requireRef "args list must be an object" (i.arg 2))
    Run.call f (i.arg 1) args
  | construct => do
    let f ← requireConstructor "target must be a constructor" (i.arg 0)
    let target ← if i.args.length < 3 then pure f
      else requireConstructor "newTarget must be a constructor" (i.arg 2)
    let args ← listItems (← requireRef "args list must be an object" (i.arg 1))
    Run.construct f args target
  | defineProperty => do
    let ref ← targetArgument i
    let k ← toKey (i.arg 1)
    flag (← defineWith proxyOps ref k (← toDescriptorWith proxyOps (i.arg 2)))
  | deleteProperty => do
    let ref ← targetArgument i
    flag (← deleteWith proxyOps ref (← toKey (i.arg 1)))
  | get => do
    let ref ← targetArgument i
    let k ← toKey (i.arg 1)
    getWith proxyOps ref k (if i.args.length < 3 then .object ref else i.arg 2)
  | .ownDescriptor => do
    let ref ← targetArgument i
    Library.ownDescriptor ref (← toKey (i.arg 1))
  | prototypeOf => do pure (objectOrNull (← prototype (← targetArgument i)))
  | has => do
    let ref ← targetArgument i
    flag (← Run.has ref (← toKey (i.arg 1)))
  | isExtensible => do flag (← isExtensibleWith proxyOps (← targetArgument i))
  | ownKeys => do arrayValue ((← Run.ownKeys (← targetArgument i)).map Key.toValue)
  | preventExtensions => do flag (← preventExtensionsWith proxyOps (← targetArgument i))
  | set => do
    let ref ← targetArgument i
    let k ← toKey (i.arg 1)
    flag (← setWith proxyOps ref k (i.arg 2) (if i.args.length < 4 then .object ref else i.arg 3))
  | setPrototypeOf => do
    let ref ← targetArgument i
    flag (← setPrototype ref (← prototypeOrNull (i.arg 1)))

/-- A function of typed arrays and buffers. -/
def BinaryDataOp.run (op : BinaryDataOp) (i : Invocation) : Run ScriptValue :=
  match op with
  | .makeTyped element => Library.makeTyped element i
  | refuse => throwTypeError "the TypedArray constructor should never be called directly"
  | length => do
    match i.this with
    | .object ref =>
      match ← kindOf ref with
      | .typedArray _ n => pure (lengthValue n)
      | _ => throwTypeError "Value is not a typed array object"
    | _ => throwTypeError "Value is not a typed array object"
  | byteLength => do
    match i.this with
    | .object ref =>
      match ← kindOf ref with
      | .typedArray element n => pure (lengthValue (n * elementSize element))
      | _ => throwTypeError "Value is not a typed array object"
    | _ => throwTypeError "Value is not a typed array object"
  | makeBuffer => do
    match i.target with
    | none => throwTypeError "ArrayBuffer.constructor called with undefined new target"
    | some target =>
      let proto ← prototypeFor (some target) .bufferPrototype
      let size ← toLength (i.arg 0)
      ScriptValue.object <$> allocate (.empty (some proto) (.buffer size))
  | bufferLength => do
    match i.this with
    | .object ref =>
      match ← kindOf ref with
      | .buffer n => pure (lengthValue n)
      | _ => throwTypeError "ArrayBuffer.byteLength called with invalid value"
    | _ => throwTypeError "ArrayBuffer.byteLength called with invalid value"

end ScriptHost.Script
