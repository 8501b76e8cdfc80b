import ScriptHost.Script.Integer
import ScriptHost.Script.Run

/-!
# Operations on objects

The operations that every object has, first for objects that follow the ordinary rules, then for
proxies, which send them to a handler.  The ordinary rules need the others only when a prototype, a
receiver or a target is a proxy, so each takes the operations on proxies (`ProxyOps`) as an
argument; proxies that stand behind proxies are unfolded `proxyDepth` times.

* searching: `Heap.search`, which walks prototypes as far as the first proxy, or the first typed
  array if the key could be one of an element;
* conversions: `toPrimitiveWith`, `toNumberWith`, `toBigintWith`, `storedElementWith`;
* the operations: `getWith`, `setWith`, `hasWith`, `defineWith`, `deleteWith`, `getOwnWith`,
  `ownKeysWith`, `prototypeWith`, `setPrototypeWith`, `isExtensibleWith`, `preventExtensionsWith`;
* on proxies: `proxyOps`.
-/

namespace ScriptHost.Script

/-- Where the search for a property along prototypes ended. -/
inductive Search
  | found (p : Property)
  | absent
  /-- A typed array, which stores such elements, would have to hold the property and does not. -/
  | outside (array : Ref) (element : ElementType)
  /-- The search has to be left to a proxy. -/
  | proxy (ref : Ref)

namespace Heap

/-- Searches an object and its prototypes; `fuel` bounds their number. -/
def searchFrom (h : Heap) (k : Key) : (fuel : Nat) → Ref → Search
  | 0, _ => .absent
  | fuel + 1, ref =>
    let o := h.lookUp ref
    match o.kind with
    | .proxy .. => .proxy ref
    | _ =>
      match o.find? k with
      | some p => .found p
      | none =>
        match o.closes? k, o.proto with
        | some element, _ => .outside ref element
        | none, some proto => h.searchFrom k fuel proto
        | none, none => .absent

/-- Searches an object and its prototypes. -/
def search (h : Heap) (k : Key) (ref : Ref) : Search := h.searchFrom k (h.objects.size + 1) ref

/-- The object can be called. -/
def isCallable (h : Heap) (ref : Ref) : Bool :=
  match (h.lookUp ref).kind with
  | .function _ => true
  | .proxy _ calls _ => calls
  | _ => false

/-- The object can be constructed with. -/
def isConstructor (h : Heap) (ref : Ref) : Bool :=
  match (h.lookUp ref).kind with
  | .function f => f.constructs
  | .proxy _ _ constructs => constructs
  | _ => false

/-- Some prototype of `ref`, or itself, is `wanted`; the walk stops at a proxy. -/
def hasPrototype (h : Heap) (wanted : Ref) : (fuel : Nat) → Ref → Bool
  | 0, _ => false
  | fuel + 1, ref =>
    ref = wanted ||
      match (h.lookUp ref).kind, (h.lookUp ref).proto with
      | .proxy .., _ => false
      | _, some proto => h.hasPrototype wanted fuel proto
      | _, none => false

end Heap

/-- The operations on proxies. -/
structure ProxyOps where
  get : Ref → Key → ScriptValue → Run ScriptValue
  set : Ref → Key → ScriptValue → ScriptValue → Run Bool
  has : Ref → Key → Run Bool
  getOwn : Ref → Key → Run (Option Property)
  define : Ref → Key → Descriptor → Run Bool
  delete : Ref → Key → Run Bool
  ownKeys : Ref → Run (List Key)
  prototype : Ref → Run (Option Ref)
  setPrototype : Ref → Option Ref → Run Bool
  isExtensible : Ref → Run Bool
  preventExtensions : Ref → Run Bool

namespace Run

/-- The value is a function, or a proxy of one. -/
def isCallable (v : ScriptValue) : Run Bool := read fun s =>
  match v with
  | .object ref => s.heap.isCallable ref
  | _ => false

/-- Calls a value, which has to be a function. -/
def callValue (f this : ScriptValue) (args : List ScriptValue) : Run ScriptValue := do
  match f with
  | .object ref =>
    if ← read fun s => s.heap.isCallable ref then call ref this args
    else throwTypeError "not a callable function"
  | _ => throwTypeError "not a callable function"

/-- The name of a key in messages. -/
def keyText (k : Key) : Run String := read fun s =>
  match k with
  | .symbol id => "Symbol(" ++ String.ofList (unitChars ((s.symbols.getD id none).getD [])) ++ ")"
  | k => String.ofList (unitChars (k.toUnits?.getD []))

variable (m : ProxyOps)

/-! ## Ordinary rules -/

/-- The kind of an object. -/
def kindOf (ref : Ref) : Run Kind := read fun s => (s.heap.lookUp ref).kind

/-- The own property under a key. -/
def getOwnWith (ref : Ref) (k : Key) : Run (Option Property) := do
  let o ← objectAt ref
  match o.kind with
  | .proxy .. => m.getOwn ref k
  | _ => pure (o.find? k)

/-- The value of a property, seen from a receiver. -/
def propertyValue (p : Property) (receiver : ScriptValue) : Run ScriptValue :=
  match p.slot with
  | .data v _ => pure v
  | .accessor (some getter) _ => call getter receiver []
  | .accessor none _ => pure .undefined

/-- The value under a key, own or inherited. -/
def getWith (ref : Ref) (k : Key) (receiver : ScriptValue) : Run ScriptValue := do
  match ← read fun s => s.heap.search k ref with
  | .found p => propertyValue p receiver
  | .absent | .outside .. => pure .undefined
  | .proxy proxy => m.get proxy k receiver

/-- A property exists under a key, own or inherited. -/
def hasWith (ref : Ref) (k : Key) : Run Bool := do
  match ← read fun s => s.heap.search k ref with
  | .found _ => pure true
  | .absent | .outside .. => pure false
  | .proxy proxy => m.has proxy k

/-- A method of an object; a missing one is none. -/
def methodWith (v : ScriptValue) (ref : Ref) (k : Key) : Run (Option Ref) := do
  match ← getWith m ref k v with
  | .undefined | .null => pure none
  | .object f =>
    if ← read fun s => s.heap.isCallable f then pure (some f)
    else throwTypeError "value returned for property of object is not a function"
  | _ => throwTypeError "value returned for property of object is not a function"

/-- The primitive that an object turns into by one of its methods. -/
def primitiveByMethod (ref : Ref) : List String → Run ScriptValue
  | [] => throwTypeError "cannot convert object to primitive value"
  | name :: rest => do
    let method ← getWith m ref (.name (Text.units name)) (.object ref)
    if ← isCallable method then
      match ← callValue method (.object ref) [] with
      | .object _ => primitiveByMethod ref rest
      | v => pure v
    else primitiveByMethod ref rest

/-- The kinds of primitives that an object may be asked for. -/
inductive Hint
  | none
  | number
  | string
  deriving DecidableEq

def Hint.text : Hint → String
  | none => "default"
  | number => "number"
  | string => "string"

/-- The primitive that an object turns into by its own methods.  One that is being turned into a
primitive already counts as zero, or as empty text. -/
def ordinaryPrimitive (hint : Hint) (ref : Ref) : Run ScriptValue := do
  if ← read fun s => s.converting.contains ref then
    pure (if hint = .string then .string [] else .number 0)
  else
    update fun s => { s with converting := ref :: s.converting }
    let result ← attempt (primitiveByMethod m ref
      (if hint = .string then ["toString", "valueOf"] else ["valueOf", "toString"]))
    update fun s => { s with converting := s.converting.drop 1 }
    resume result

/-- The primitive that a value turns into. -/
def toPrimitiveWith (hint : Hint) (v : ScriptValue) : Run ScriptValue := do
  match v with
  | .object ref =>
    match ← methodWith m v ref WellKnown.toPrimitive.key with
    | some f =>
      match ← call f v [.string (Text.units hint.text)] with
      | .object _ => throwTypeError "Symbol.toPrimitive cannot return an object"
      | p => pure p
    | none => ordinaryPrimitive m hint ref
  | v => pure v

/-- The number that a primitive turns into. -/
def primitiveNumber : ScriptValue → Run Float
  | .undefined => pure notNumber
  | .null => pure 0
  | .boolean b => pure (if b then 1 else 0)
  | .number x => pure x
  | .string text => pure (numberOfText text)
  | .symbol _ => throwTypeError "argument must not be a symbol"
  | .bigint _ => throwTypeError "argument must not be a bigint"
  | .object _ => pure notNumber

/-- The number that a value turns into. -/
def toNumberWith (v : ScriptValue) : Run Float := do
  match v with
  | .number x => pure x
  | v => primitiveNumber (← toPrimitiveWith m .number v)

/-- The integer that a value turns into. -/
def toBigintWith (v : ScriptValue) : Run Int := do
  match ← toPrimitiveWith m .number v with
  | .bigint n => pure n
  | .boolean b => pure (if b then 1 else 0)
  | .number _ => throwTypeError "cannot convert Number to a BigInt"
  | .string text =>
    match bigintOfText? text with
    | some n => pure n
    | none =>
      throwNew .syntaxError ("cannot convert string '" ++ nameText text ++ "' to bigint primitive")
  | .undefined => throwTypeError "cannot convert undefined to a BigInt"
  | .null => throwTypeError "cannot convert null to a BigInt"
  | _ => throwTypeError "cannot convert Symbol to a BigInt"

/-- The element that a value is stored as in a typed array. -/
def storedElementWith (element : ElementType) (v : ScriptValue) : Run ScriptValue := do
  let wrapped (bits : Nat) (isSigned : Bool) : Run ScriptValue := do
    let x ← toNumberWith m v
    let n := if x.isNaN || x.isInf then 0 else exactInt (wholePart x)
    pure (.number (intFloat (wrapInt bits isSigned n)))
  match element with
  | .int8 => wrapped 8 true
  | .uint8 => wrapped 8 false
  | .uint8Clamped => do
    let x ← toNumberWith m v
    pure (.number (if x.isNaN || x ≤ 0 then 0 else if 255 ≤ x then 255 else roundEven x))
  | .int16 => wrapped 16 true
  | .uint16 => wrapped 16 false
  | .int32 => wrapped 32 true
  | .uint32 => wrapped 32 false
  | .float32 => do pure (.number ((← toNumberWith m v).toFloat32.toFloat))
  | .float64 => ScriptValue.number <$> toNumberWith m v
  | .bigInt64 => do pure (.bigint (wrapInt 64 true (← toBigintWith m v)))
  | .bigUint64 => do pure (.bigint (wrapInt 64 false (← toBigintWith m v)))

/-- The length that a value gives to an array.  The value is turned into a number twice, and the
second one counts. -/
def arrayLengthWith (v : ScriptValue) : Run Nat := do
  let _ ← toNumberWith m v
  let x ← toNumberWith m v
  let length := x.toUInt64.toNat
  if 0 ≤ x && x ≤ 4294967295 && Float.ofNat length == x then pure length
  else throwRangeError "bad length for array"

/-- Defines a property as the object's own rules have it; false if they refuse. -/
def definePlain (ref : Ref) (k : Key) (d : Descriptor) (o : Object) : Run Bool := do
  match o.define? k d with
  | some o =>
    replaceObject ref o
    pure true
  | none => pure false

/-- Defines an own property; false if that is refused. -/
def defineWith (ref : Ref) (k : Key) (d : Descriptor) : Run Bool := do
  let o ← objectAt ref
  match o.kind with
  | .proxy .. => m.define ref k d
  | .array .. =>
    if k = lengthKey then
      let wanted ← match d.value with
        | some v => some <$> arrayLengthWith m v
        | none => pure none
      change fun s =>
        let o := s.heap.lookUp ref
        match o.kind with
        | .array length writable =>
          let (o, ok) := o.defineLength length writable (wanted.getD length) d
          (ok, { s with heap := s.heap.replace ref o })
        | _ => (false, s)
    else definePlain ref k d o
  | .arguments .. => do
    let ok ← definePlain ref k d o
    match o.followed? k with
    | some (scope, name) =>
      if ok then
        if let some v := d.value then update fun s => s.rebind scope name v
        if d.isAccessor || d.writable = some false then modifyObject ref fun o => o.detach k
    | none => pure ()
    pure ok
  | .typedArray .. =>
    match o.closes? k, d.value with
    | some element, some v =>
      -- a definition that is refused converts nothing
      if (o.define? k d).isSome then
        let stored ← storedElementWith m element v
        definePlain ref k { d with value := some stored } (← objectAt ref)
      else pure false
    | _, _ => definePlain ref k d o
  | _ => definePlain ref k d o

/-- Stores a value in a receiver whose prototypes do not object. -/
def storeWith (k : Key) (v receiver : ScriptValue) : Run Bool := do
  match receiver with
  | .object ref =>
    match ← getOwnWith m ref k with
    | some ⟨.accessor .., _, _⟩ => pure false
    | some ⟨.data _ false, _, _⟩ => pure false
    | some ⟨.data _ true, _, _⟩ => defineWith m ref k { Descriptor.blank with value := some v }
    | none => defineWith m ref k (.ofProperty (.plain v))
  | _ => pure false

/-- Assigns to a key; false if that is refused. -/
def setWith (ref : Ref) (k : Key) (v receiver : ScriptValue) : Run Bool := do
  match ← read fun s => s.heap.search k ref with
  | .found ⟨.data _ true, _, _⟩ | .absent => storeWith m k v receiver
  | .found ⟨.data _ false, _, _⟩ => pure false
  | .found ⟨.accessor _ (some setter), _, _⟩ =>
    let _ ← call setter receiver [v]
    pure true
  | .found ⟨.accessor _ none, _, _⟩ => pure false
  | .outside array element =>
    -- the value is dropped, but still converted where it was meant for the array itself
    if receiver = .object array then
      let _ ← storedElementWith m element v
    pure true
  | .proxy proxy => m.set proxy k v receiver

/-- Deletes an own property; false if that is refused. -/
def deleteWith (ref : Ref) (k : Key) : Run Bool := do
  let o ← objectAt ref
  match o.kind with
  | .proxy .. => m.delete ref k
  | _ =>
    match o.delete? k with
    | some o =>
      replaceObject ref (o.detach k)
      pure true
    | none => pure false

/-- The own keys in the object's order. -/
def ownKeysWith (ref : Ref) : Run (List Key) := do
  let o ← objectAt ref
  match o.kind with
  | .proxy .. => m.ownKeys ref
  | _ => pure o.ownKeys

def prototypeWith (ref : Ref) : Run (Option Ref) := do
  let o ← objectAt ref
  match o.kind with
  | .proxy .. => m.prototype ref
  | _ => pure o.proto

/-- Replaces the prototype; false if the object refuses or would become its own prototype.  The root
of all objects keeps having none. -/
def setPrototypeWith (ref : Ref) (proto : Option Ref) : Run Bool := do
  let o ← objectAt ref
  match o.kind with
  | .proxy .. => m.setPrototype ref proto
  | _ =>
    if o.proto = proto then pure true
    else if !o.extensible || ref = Intrinsic.objectPrototype.ref then pure false
    else
      let cyclic ← read fun s => match proto with
        | some p => s.heap.hasPrototype ref (s.heap.objects.size + 1) p
        | none => false
      if cyclic then pure false
      else
        modifyObject ref fun o => { o with proto := proto }
        pure true

def isExtensibleWith (ref : Ref) : Run Bool := do
  let o ← objectAt ref
  match o.kind with
  | .proxy .. => m.isExtensible ref
  | _ => pure o.extensible

def preventExtensionsWith (ref : Ref) : Run Bool := do
  let o ← objectAt ref
  match o.kind with
  | .proxy .. => m.preventExtensions ref
  | _ =>
    modifyObject ref fun o => { o with extensible := false }
    pure true

/-! ## Descriptors as objects -/

/-- The truth of a value. -/
def truth : ScriptValue → Bool
  | .undefined | .null => false
  | .boolean b => b
  | .number x => !(x.isNaN || x == 0)
  | .string text => !text.isEmpty
  | .bigint n => n != 0
  | .symbol _ | .object _ => true

/-- The object that describes a property. -/
def descriptorObject (p : Property) : Run Ref := do
  let ref ← newObject
  let put (name : String) (v : ScriptValue) : Run Unit :=
    modifyObject ref fun o => o.put (.name (Text.units name)) (.plain v)
  let function (f : Option Ref) : ScriptValue := (f.map ScriptValue.object).getD .undefined
  match p.slot with
  | .data v w =>
    put "value" v
    put "writable" (.boolean w)
  | .accessor g s =>
    put "get" (function g)
    put "set" (function s)
  put "enumerable" (.boolean p.enumerable)
  put "configurable" (.boolean p.configurable)
  pure ref

/-- The object that repeats a definition. -/
def definitionObject (d : Descriptor) : Run Ref := do
  let ref ← newObject
  let put (name : String) (v : Option ScriptValue) : Run Unit :=
    match v with
    | some v => modifyObject ref fun o => o.put (.name (Text.units name)) (.plain v)
    | none => pure ()
  let function (f : Option Ref) : ScriptValue := (f.map ScriptValue.object).getD .undefined
  put "value" d.value
  put "writable" (d.writable.map .boolean)
  put "get" (d.getter.map function)
  put "set" (d.setter.map function)
  put "enumerable" (d.enumerable.map .boolean)
  put "configurable" (d.configurable.map .boolean)
  pure ref

/-- A member of an object that describes a property, if it has it. -/
def describedWith (ref : Ref) (name : String) : Run (Option ScriptValue) := do
  let k : Key := .name (Text.units name)
  if ← hasWith m ref k then some <$> getWith m ref k (.object ref) else pure none

/-- The function that a described accessor names. -/
def accessorFunction (what : String) (v : Option ScriptValue) : Run (Option (Option Ref)) := do
  match v with
  | none => pure none
  | some .undefined => pure (some none)
  | some v =>
    if ← isCallable v then
      match v with
      | .object ref => pure (some (some ref))
      | _ => pure (some none)
    else throwTypeError ("Property descriptor " ++ what ++ " must be callable")

/-- The definition that an object describes. -/
def toDescriptorWith (v : ScriptValue) : Run Descriptor := do
  match v with
  | .object ref =>
    let enumerable ← describedWith m ref "enumerable"
    let configurable ← describedWith m ref "configurable"
    let value ← describedWith m ref "value"
    let writable ← describedWith m ref "writable"
    let getter ← accessorFunction "getter" (← describedWith m ref "get")
    let setter ← accessorFunction "setter" (← describedWith m ref "set")
    if (getter.isSome || setter.isSome) && (value.isSome || writable.isSome) then
      throwTypeError ("Invalid property descriptor.Cannot both specify accessors and a value or " ++
        "writable attribute")
    pure ⟨value, writable.map truth, getter, setter, enumerable.map truth, configurable.map truth⟩
  | _ => throwTypeError "Cannot construct a property descriptor from a non-object"

/-! ## Proxies -/

/-- Target and handler of a proxy that has not been revoked. -/
def proxyEnds (ref : Ref) : Run (Ref × Ref) := do
  match ← kindOf ref with
  | .proxy (some ends) _ _ => pure ends
  | _ => throwTypeError "Proxy object has empty handler and target"

/-- Sends an operation to the handler, or does it to the target if the handler has
no method for it. -/
def trapped {α : Type} (ref : Ref) (name : String) (direct : Ref → Run α)
    (viaTrap : (target : Ref) → (callTrap : List ScriptValue → Run ScriptValue) → Run α) :
    Run α := do
  let (target, handler) ← proxyEnds ref
  match ← methodWith m (.object handler) handler (.name (Text.units name)) with
  | none => direct target
  | some f => viaTrap target fun args => call f (.object handler) (.object target :: args)

/-- An optional object as a value. -/
def objectOrNull : Option Ref → ScriptValue
  | some ref => .object ref
  | none => .null

/-- A definition could be applied to a property as it is. -/
def isCompatible (extensible : Bool) (current : Option Property) (d : Descriptor) : Bool :=
  match current with
  | some p => (p.redefine? d).isSome
  | none => extensible

/-- A definition forbids writing to a property that allows it and can be changed in no other way. -/
def losesWriting (current : Option Property) (d : Descriptor) : Bool :=
  match current with
  | some ⟨.data _ true, _, false⟩ => d.writable = some false
  | _ => false

def proxyGet (ref : Ref) (k : Key) (receiver : ScriptValue) : Run ScriptValue :=
  trapped m ref "get" (fun target => getWith m target k receiver) fun target callTrap => do
    let v ← callTrap [k.toValue, receiver]
    match ← getOwnWith m target k with
    | some ⟨.data old false, _, false⟩ =>
      if !sameValue v old then throwTypeError "Proxy trap returned unexpected data descriptor"
    | some ⟨.accessor none _, _, false⟩ =>
      if v ≠ .undefined then throwTypeError "Proxy trap returned unexpected accessor descriptor"
    | _ => pure ()
    pure v

def proxySet (ref : Ref) (k : Key) (v receiver : ScriptValue) : Run Bool :=
  trapped m ref "set" (fun target => setWith m target k v receiver) fun target callTrap => do
    if truth (← callTrap [k.toValue, v, receiver]) then
      match ← getOwnWith m target k with
      | some ⟨.data old false, _, false⟩ =>
        if !sameValue v old then throwTypeError "Proxy trap set unexpected data descriptor"
      | some ⟨.accessor _ none, _, false⟩ =>
        throwTypeError "Proxy trap set unexpected accessor descriptor"
      | _ => pure ()
      pure true
    else pure false

def proxyHas (ref : Ref) (k : Key) : Run Bool :=
  trapped m ref "has" (fun target => hasWith m target k) fun target callTrap => do
    let found := truth (← callTrap [k.toValue])
    if !found then
      match ← getOwnWith m target k with
      | some p =>
        if !p.configurable then throwTypeError "Proxy trap returned unexpected property"
        if !(← isExtensibleWith m target) then
          throwTypeError "Proxy trap returned unexpected property"
      | none => pure ()
    pure found

def proxyGetOwn (ref : Ref) (k : Key) : Run (Option Property) :=
  trapped m ref "getOwnPropertyDescriptor" (fun target => getOwnWith m target k)
    fun target callTrap => do
      match ← callTrap [k.toValue] with
      | .undefined =>
        match ← getOwnWith m target k with
        | some p =>
          if !p.configurable then
            throwTypeError "Proxy trap result is undefined adn target result is not configurable"
          if !(← isExtensibleWith m target) then
            throwTypeError "Proxy trap result is not extensible"
          pure none
        | none => pure none
      | .object answer =>
        let old ← getOwnWith m target k
        let extensible ← isExtensibleWith m target
        let p := (← toDescriptorWith m (.object answer)).toProperty
        if !isCompatible extensible old (.ofProperty p) then
          throwTypeError "Proxy trap returned unexpected property"
        if !p.configurable && (old.map (·.configurable)).getD true then
          throwTypeError "Proxy trap returned unexpected property"
        if !p.configurable && losesWriting old (.ofProperty p) then
          throwTypeError "Proxy trap returned unexpected property"
        pure (some p)
      | _ => throwTypeError "Proxy trap result is neither object nor undefined"

def proxyDefine (ref : Ref) (k : Key) (d : Descriptor) : Run Bool :=
  trapped m ref "defineProperty" (fun target => defineWith m target k d) fun target callTrap => do
    let described ← definitionObject d
    if truth (← callTrap [k.toValue, .object described]) then
      let old ← getOwnWith m target k
      let extensible ← isExtensibleWith m target
      let closing := d.configurable = some false
      match old with
      | none => if !extensible || closing then throwTypeError "Proxy trap failed to set property"
      | some p =>
        if !isCompatible extensible old d then
          throwTypeError "Proxy trap set property to unexpected value"
        if closing && p.configurable then
          throwTypeError "Proxy trap set property with unexpected configurable field"
        if losesWriting old d then
          throwTypeError "Proxy trap set property with unexpected writable field"
      pure true
    else pure false

def proxyDelete (ref : Ref) (k : Key) : Run Bool :=
  trapped m ref "deleteProperty" (fun target => deleteWith m target k) fun target callTrap => do
    if truth (← callTrap [k.toValue]) then
      match ← getOwnWith m target k with
      | some p =>
        if !p.configurable then throwTypeError "Proxy trap failed to delete property"
        if !(← isExtensibleWith m target) then throwTypeError "Proxy trap failed to delete property"
      | none => pure ()
      pure true
    else pure false

/-- A value as a key, if it is text or a symbol. -/
def keyOfValue? : ScriptValue → Option Key
  | .string text => some (.ofUnits text)
  | .symbol id => some (.symbol id)
  | _ => none

/-- The number of items that an object says it has.  An array need not be asked. -/
def itemCountWith (ref : Ref) : Run Nat := do
  match ← kindOf ref with
  | .array length _ => pure length
  | _ =>
    let x ← toNumberWith m (← getWith m ref lengthKey (.object ref))
    if x.isNaN || x ≤ 0 then pure 0
    else pure (if 9007199254740991 ≤ x then 9007199254740991 else x.toUInt64.toNat)

/-- The keys that an object lists as its items. -/
def listedKeysWith (ref : Ref) : (count next : Nat) → Run (List Key)
  | 0, _ => pure []
  | count + 1, next => do
    let v ← getWith m ref (.ofNat next) (.object ref)
    match keyOfValue? v with
    | some k => do
      let rest ← listedKeysWith ref count (next + 1)
      pure (k :: rest)
    | none => throwTypeError "bad type"

/-- The first key that another one repeats, of all such pairs the one that is complete first. -/
def repeatedKey? (keys : List Key) : Option Key :=
  let rec from? (seen : List Key) : List Key → Option Key
    | [] => none
    | k :: rest => if seen.contains k then some k else from? (k :: seen) rest
  from? [] keys

def proxyOwnKeys (ref : Ref) : Run (List Key) :=
  trapped m ref "ownKeys" (fun target => ownKeysWith m target) fun target callTrap => do
    match ← callTrap [] with
    | .object answer =>
      let keys ← listedKeysWith m answer (← itemCountWith m answer) 0
      match repeatedKey? keys with
      | some k =>
        let what := if k.isSymbol then "symbol" else "string"
        throwTypeError ("Proxy trap result contains duplicate " ++ what ++ " property keys")
      | none => pure ()
      let extensible ← isExtensibleWith m target
      let old ← ownKeysWith m target
      let fixed ← foldItems (fun (done : List Key) k => do
        match ← getOwnWith m target k with
        | some p => pure (if p.configurable then done else k :: done)
        | none => pure done) old []
      if !fixed.all keys.contains then
        throwTypeError "Proxy trap failed to return all non-configurable property keys"
      if !extensible then
        if !old.all keys.contains then
          throwTypeError "Proxy trap failed to return all configurable property keys"
        if !keys.all old.contains then
          throwTypeError "Proxy trap failed to return all property keys"
      pure keys
    | _ => throwTypeError "cannot create list from a primitive"

def proxyPrototype (ref : Ref) : Run (Option Ref) :=
  trapped m ref "getPrototypeOf" (fun target => prototypeWith m target) fun target callTrap => do
    let answer ← match ← callTrap [] with
      | .object p => pure (some p)
      | .null => pure none
      | _ => throwTypeError "Proxy trap result is neither object nor null"
    if !(← isExtensibleWith m target) then
      if (← prototypeWith m target) ≠ answer then
        throwTypeError "Proxy trap returned unexpected prototype"
    pure answer

def proxySetPrototype (ref : Ref) (proto : Option Ref) : Run Bool :=
  trapped m ref "setPrototypeOf" (fun target => setPrototypeWith m target proto)
    fun target callTrap => do
      if truth (← callTrap [objectOrNull proto]) then
        if !(← isExtensibleWith m target) then
          if (← prototypeWith m target) ≠ proto then
            throwTypeError "Proxy trap failed to set prototype"
        pure true
      else pure false

def proxyIsExtensible (ref : Ref) : Run Bool :=
  trapped m ref "isExtensible" (fun target => isExtensibleWith m target) fun target callTrap => do
    let answer := truth (← callTrap [])
    if answer != (← isExtensibleWith m target) then
      throwTypeError "Proxy trap returned unexpected extensible value"
    pure answer

def proxyPreventExtensions (ref : Ref) : Run Bool :=
  trapped m ref "preventExtensions" (fun target => preventExtensionsWith m target)
    fun target callTrap => do
      let answer := truth (← callTrap [])
      if ← pure answer <&&> isExtensibleWith m target then
        throwTypeError "Proxy trap failed to set extensible"
      pure answer

/-- How often proxies behind proxies are unfolded. -/
def proxyDepth : Nat := 1024

/-- The operations on proxies behind which at most `depth` further ones stand. -/
def proxyOpsOf : (depth : Nat) → ProxyOps
  | 0 =>
    ⟨fun _ _ _ => default, fun _ _ _ _ => default, fun _ _ => default, fun _ _ => default,
      fun _ _ _ => default, fun _ _ => default, fun _ => default, fun _ => default,
      fun _ _ => default, fun _ => default, fun _ => default⟩
  | depth + 1 =>
    ⟨fun ref k receiver s => proxyGet (proxyOpsOf depth) ref k receiver s,
      fun ref k v receiver s => proxySet (proxyOpsOf depth) ref k v receiver s,
      fun ref k s => proxyHas (proxyOpsOf depth) ref k s,
      fun ref k s => proxyGetOwn (proxyOpsOf depth) ref k s,
      fun ref k d s => proxyDefine (proxyOpsOf depth) ref k d s,
      fun ref k s => proxyDelete (proxyOpsOf depth) ref k s,
      fun ref s => proxyOwnKeys (proxyOpsOf depth) ref s,
      fun ref s => proxyPrototype (proxyOpsOf depth) ref s,
      fun ref proto s => proxySetPrototype (proxyOpsOf depth) ref proto s,
      fun ref s => proxyIsExtensible (proxyOpsOf depth) ref s,
      fun ref s => proxyPreventExtensions (proxyOpsOf depth) ref s⟩

/-- The operations on proxies. -/
def proxyOps : ProxyOps := proxyOpsOf proxyDepth

end Run

end ScriptHost.Script
