import ScriptHost.Script.Property

/-!
# Operations on values

The operations on objects under their plain names, and what turns values into text, numbers, keys
and objects.

* objects: `get`, `set`, `has`, `define`, `create`, `getOwn`, `ownKeys`, `deleteKey`;
* conversions: `toText`, `toNumber`, `toInteger`, `toKey`, `toObject`, `toPrimitive`;
* values: `getValue`, `setValue`, `looselyEqual`, `strictlyEqual`, `typeText`;
* lists: `listItems`, `iterate`.
-/

namespace ScriptHost.Script.Run

open ScriptHost.Script

/-! ## Objects -/

def get (ref : Ref) (k : Key) : Run ScriptValue := getWith proxyOps ref k (.object ref)

/-- The value under a key that is given as a string. -/
def getNamed (ref : Ref) (name : String) : Run ScriptValue := get ref (.ofString name)

def has (ref : Ref) (k : Key) : Run Bool := hasWith proxyOps ref k

def getOwn (ref : Ref) (k : Key) : Run (Option Property) := getOwnWith proxyOps ref k

def ownKeys (ref : Ref) : Run (List Key) := ownKeysWith proxyOps ref

def hasOwn (ref : Ref) (k : Key) : Run Bool := do
  pure (← getOwn ref k).isSome

/-- Defines an own property, or throws. -/
def define (ref : Ref) (k : Key) (d : Descriptor) : Run Unit := do
  if !(← defineWith proxyOps ref k d) then
    throwTypeError ("cannot redefine property: " ++ (← keyText k))

/-- Makes an own property as assignments do, or throws. -/
def create (ref : Ref) (k : Key) (v : ScriptValue) : Run Unit :=
  define ref k (.ofProperty (.plain v))

/-- Makes an own property under a key given as a string. -/
def createNamed (ref : Ref) (name : String) (v : ScriptValue) : Run Unit :=
  create ref (.ofString name) v

/-- Assigns to a key, or throws. -/
def set (ref : Ref) (k : Key) (v : ScriptValue) : Run Unit := do
  if !(← setWith proxyOps ref k v (.object ref)) then
    throwTypeError ("cannot set non-writable property: " ++ (← keyText k))

/-- Deletes a key, or throws. -/
def deleteKey (ref : Ref) (k : Key) : Run Unit := do
  if !(← deleteWith proxyOps ref k) then
    throwTypeError ("cannot delete non-configurable property: " ++ (← keyText k))

def setPrototype (ref : Ref) (proto : Option Ref) : Run Bool := setPrototypeWith proxyOps ref proto

def prototype (ref : Ref) : Run (Option Ref) := prototypeWith proxyOps ref

/-- The object is an array, or a proxy of one; `fuel` bounds the number of proxies. -/
def isArrayFrom : (fuel : Nat) → Ref → Run Bool
  | 0, _ => pure false
  | fuel + 1, ref => do
    match ← kindOf ref with
    | .array .. => pure true
    | .proxy (some (target, _)) _ _ => isArrayFrom fuel target
    | .proxy none _ _ => throwTypeError "Proxy object has empty handler and target"
    | _ => pure false

/-- The value is an array, or a proxy of one. -/
def isArray (v : ScriptValue) : Run Bool := do
  match v with
  | .object ref => isArrayFrom proxyDepth ref
  | _ => pure false

/-- A new array of these items. -/
def newArray (items : List ScriptValue) : Run Ref :=
  let (indexed, count) := items.foldl (fun (done : Std.TreeMap Nat Property × Nat) v =>
    (done.1.insert done.2 (.plain v), done.2 + 1)) (∅, 0)
  allocate ⟨some Intrinsic.arrayPrototype.ref, true, .array count true, indexed, []⟩

/-! ## Conversions -/

def toPrimitive (hint : Hint) (v : ScriptValue) : Run ScriptValue := toPrimitiveWith proxyOps hint v

def toNumber (v : ScriptValue) : Run Float := toNumberWith proxyOps v

def toBigint (v : ScriptValue) : Run Int := toBigintWith proxyOps v

/-- The element that a value is stored as in a typed array. -/
def storedElement (element : ElementType) (v : ScriptValue) : Run ScriptValue :=
  storedElementWith proxyOps element v

/-- The name of a value's type. -/
def typeText (v : ScriptValue) : Run String := do
  match v with
  | .undefined => pure "undefined"
  | .null => pure "object"
  | .boolean _ => pure "boolean"
  | .number _ => pure "number"
  | .string _ => pure "string"
  | .symbol _ => pure "symbol"
  | .bigint _ => pure "bigint"
  | .object ref => pure (if ← read fun s => s.heap.isCallable ref then "function" else "object")

/-- The text of a primitive. -/
def primitiveText : ScriptValue → Run Units
  | .undefined => pure (Text.units "undefined")
  | .null => pure (Text.units "null")
  | .boolean b => pure (Text.units (if b then "true" else "false"))
  | .number x => pure (numeral x)
  | .string text => pure text
  | .bigint n => pure (Text.units (toString n))
  | .symbol _ => throwTypeError "can't convert symbol to string"
  | .object _ => pure []

/-- The text that a value turns into. -/
def toText (v : ScriptValue) : Run Units := do
  match v with
  | .string text => pure text
  | v => primitiveText (← toPrimitive .string v)

/-- The number without its fraction that a value turns into; perhaps infinite. -/
def toInteger (v : ScriptValue) : Run Float := do
  pure (wholePart (← toNumber v))

/-- A number of items that a value asks for. -/
def toLength (v : ScriptValue) : Run Nat := do
  let x ← toInteger v
  pure (if x ≤ 0 then 0
    else (floatInt (if 9007199254740991 ≤ x then 9007199254740991 else x)).toNat)

/-- The number of items that an object says it has. -/
def itemCount (ref : Ref) : Run Nat := itemCountWith proxyOps ref

/-- The key that a value turns into. -/
def toKey (v : ScriptValue) : Run Key := do
  match v with
  | .string text => pure (.ofUnits text)
  | .symbol id => pure (.symbol id)
  | .number x =>
    if 0 ≤ x && x < 4294967295 && x.floor == x then pure (.index x.toUInt64.toNat)
    else pure (.ofUnits (numeral x))
  | v =>
    match ← toPrimitive .string v with
    | .symbol id => pure (.symbol id)
    | p => pure (.ofUnits (← primitiveText p))

/-- The prototype of the objects that wrap a primitive. -/
def wrapperPrototype : ScriptValue → Option Intrinsic
  | .boolean _ => some .booleanPrototype
  | .number _ => some .numberPrototype
  | .string _ => some .stringPrototype
  | .symbol _ => some .symbolPrototype
  | .bigint _ => some .bigintPrototype
  | _ => none

/-- The wrapper of a text: its units are properties that never change. -/
def textWrapper (proto : Ref) (text : Units) : Object :=
  let indexed := text.foldl (fun (done : Std.TreeMap Nat Property × Nat) u =>
    (done.1.insert done.2 ⟨.data (.string [u]) false, true, false⟩, done.2 + 1)) (∅, 0)
  ⟨some proto, true, .wrapper (.string text), indexed.1,
    [(lengthKey, .fixed (lengthValue text.length))]⟩

/-- The wrapper of a primitive under a prototype. -/
def wrapper (proto : Ref) (v : ScriptValue) : Object :=
  match v with
  | .string text => textWrapper proto text
  | v => .empty (some proto) (.wrapper v)

def nothingToObject : String := "cannot convert 'null' or 'undefined' to object"

/-- Refuses the two missing values as receivers. -/
def requireSomething (v : ScriptValue) : Run Unit :=
  match v with
  | .undefined | .null => throwTypeError "cannot convert null or undefined to Object"
  | _ => pure ()

/-- The object of a value. -/
def toObject (v : ScriptValue) : Run Ref := do
  match v with
  | .object ref => pure ref
  | v =>
    match wrapperPrototype v with
    | some proto => allocate (wrapper proto.ref v)
    | none => throwTypeError nothingToObject

/-- The value under a key of any value but the two missing ones. -/
def getValue (v : ScriptValue) (k : Key) : Run ScriptValue := do
  match v with
  | .object ref => get ref k
  | .string text =>
    match k with
    | .index n =>
      match text[n]? with
      | some u => pure (.string [u])
      | none => getWith proxyOps Intrinsic.stringPrototype.ref k v
    | k =>
      if k = lengthKey then pure (lengthValue text.length)
      else getWith proxyOps Intrinsic.stringPrototype.ref k v
  | v =>
    match wrapperPrototype v with
    | some proto => getWith proxyOps proto.ref k v
    | none => throwTypeError nothingToObject

/-- Assigns to a key of any value but the two missing ones;
throws if it is refused in strict code. -/
def setValue (v : ScriptValue) (k : Key) (new : ScriptValue) (strict : Bool) : Run Unit := do
  let ok ← match v with
    | .object ref => setWith proxyOps ref k new v
    | .string text =>
      match k with
      | .index n =>
        if n < text.length then pure false
        else setWith proxyOps Intrinsic.stringPrototype.ref k new v
      | k =>
        if k = lengthKey then pure false
        else setWith proxyOps Intrinsic.stringPrototype.ref k new v
    | v =>
      match wrapperPrototype v with
      | some proto => setWith proxyOps proto.ref k new v
      | none => throwTypeError nothingToObject
  if !ok && strict then
    throwTypeError ("cannot set non-writable property: " ++ (← keyText k))

/-- A method of a value; a missing one is none. -/
def method (v : ScriptValue) (k : Key) : Run (Option Ref) := do
  match ← getValue v k with
  | .undefined | .null => pure none
  | .object f =>
    if ← read fun s => s.heap.isCallable f then pure (some f)
    else throwTypeError "value returned for property of object is not a function"
  | _ => throwTypeError "value returned for property of object is not a function"

/-- Calls a value from built-in code, where the message for one that is no function
names its type. -/
def callAny (f this : ScriptValue) (args : List ScriptValue) : Run ScriptValue := do
  if ← isCallable f then callValue f this args
  else throwTypeError ("value with type \x60" ++ (← typeText f) ++ "\x60 is not callable")

/-- Calls a method of a value. -/
def invoke (v : ScriptValue) (name : String) (args : List ScriptValue) : Run ScriptValue := do
  callAny (← getValue v (.ofString name)) v args

/-! ## Equality -/

/-- Equality without conversions. -/
def strictlyEqual : ScriptValue → ScriptValue → Bool
  | .number x, .number y => x == y
  | .number _, _ => false
  | _, .number _ => false
  | v, w => v = w

/-- Equality of keys in collections: not-a-number equals itself, and the zeros are one. -/
def sameKey (v w : ScriptValue) : Bool :=
  match v, w with
  | .number x, .number y => x == y || (x.isNaN && y.isNaN)
  | v, w => strictlyEqual v w

/-- An integer equals a number. -/
def bigintIsNumber (n : Int) (x : Float) : Bool :=
  !x.isNaN && !x.isInf && x.floor == x && exactInt x = n

/-- Equality of two primitives, or of two objects, with conversions between primitives. -/
def looselyEqualPrimitives : ScriptValue → ScriptValue → Bool
  | .undefined, .null | .null, .undefined => true
  | .number x, .string t => x == numberOfText t
  | .string t, .number x => x == numberOfText t
  | .bigint n, .string t => bigintOfText? t = some n
  | .string t, .bigint n => bigintOfText? t = some n
  | .bigint n, .number x => bigintIsNumber n x
  | .number x, .bigint n => bigintIsNumber n x
  | v, w => strictlyEqual v w

/-- A truth value as the number that comparisons take it for. -/
def numberForBoolean : ScriptValue → ScriptValue
  | .boolean b => .number (if b then 1 else 0)
  | v => v

/-- Equality with conversions. -/
def looselyEqual (v w : ScriptValue) : Run Bool := do
  match v, w with
  | .object a, .object b => pure (a = b)
  | .object _, .undefined | .object _, .null | .undefined, .object _ | .null, .object _ =>
    pure false
  | .object _, w =>
    let v ← toPrimitive .none v
    finish v w
  | v, .object _ =>
    let w ← toPrimitive .none w
    finish v w
  | v, w => finish v w
where
  /-- Both sides are primitives. -/
  finish (v w : ScriptValue) : Run Bool :=
    match v, w with
    | .boolean a, .boolean b => pure (a == b)
    | v, w => pure (looselyEqualPrimitives (numberForBoolean v) (numberForBoolean w))

/-! ## Lists -/

/-- The items of an object that is used as a list. -/
def listItems (ref : Ref) : Run (List ScriptValue) := do
  let count ← itemCount ref
  let items ← scan (α := Empty) (fun n done => do
    let v ← get ref (.ofNat n)
    pure (.ok (v :: done))) count 0 []
  match items with
  | .ok done => pure done.reverse

/-- The items of the array that a value is, for a call with a list of arguments. -/
def argumentList (v : ScriptValue) : Run (List ScriptValue) := do
  match v with
  | .object ref => listItems ref
  | .undefined | .null => pure []
  | _ => throwTypeError "cannot create list from a primitive"

/-- An iterator in use. -/
structure Iterator where
  object : Ref
  next : ScriptValue

/-- The iterator of a value. -/
def iteratorOf (v : ScriptValue) : Run Iterator := do
  let missing : Run Iterator := do
    throwTypeError ("value with type \x60" ++ (← typeText v) ++ "\x60 is not iterable")
  match v with
  | .undefined | .null => missing
  | v =>
    match ← method v WellKnown.iterator.key with
    | none => missing
    | some f =>
      match ← call f v [] with
      | .object ref => pure ⟨ref, ← getNamed ref "next"⟩
      | _ => throwTypeError "returned iterator is not an object"

/-- The next value of an iterator. -/
def Iterator.step (it : Iterator) : Run (Option ScriptValue) := do
  match ← callAny it.next (.object it.object) [] with
  | .object result =>
    if truth (← getNamed result "done") then pure none
    else some <$> getNamed result "value"
  | _ => throwTypeError "next value should be an object"

/-- Tells an iterator that it is not needed any more; what that throws is kept to itself if the
iteration is already failing. -/
def Iterator.close (it : Iterator) (failing : Bool) : Run Unit := do
  let closing : Run Unit := do
    match ← method (.object it.object) (.ofString "return") with
    | none => pure ()
    | some f =>
      match ← call f (.object it.object) [] with
      | .object _ => pure ()
      | _ => if !failing then throwTypeError "inner result was not an object"
  if failing then
    match ← closing.attempt with
    | .error (.limit message frames) => leave (.limit message frames)
    | _ => pure ()
  else closing

/-- Goes through the values of an iterable, changing a value at each; an answer ends it early. -/
def iterate {α γ : Type} (v : ScriptValue) (start : γ) (step : ScriptValue → γ → Run (Except α γ)) :
    Run (Except α γ) := do
  let it ← iteratorOf v
  let round (_ : Nat) (c : γ) : Run (Except (Except α γ) γ) := do
    match ← it.step with
    | none => pure (.error (.ok c))
    | some item =>
      match ← (step item c).attempt with
      | .ok (.ok c) => pure (.ok c)
      | .ok (.error a) =>
        it.close false
        pure (.error (.error a))
      | .error e =>
        it.close true
        leave e
  match ← scan round roundLimit 0 start with
  | .error result => pure result
  | .ok c => pure (.ok c)

/-- All values of an iterable. -/
def iterableItems (v : ScriptValue) : Run (List ScriptValue) := do
  let items ← iterate (α := Empty) v [] fun item done => pure (.ok (item :: done))
  match items with
  | .ok done => pure done.reverse

/-- The object that a step of an iteration answers with. -/
def iterationResult (v : ScriptValue) (done : Bool) : Run ScriptValue := do
  let ref ← newObject
  modifyObject ref fun o =>
    (o.put (.name (Text.units "value")) (.plain v)).put (.name (Text.units "done"))
      (.plain (.boolean done))
  pure (.object ref)

/-- The value is an instance of what a constructor makes: the constructor's prototype is among the
value's. -/
def isInstanceOrdinary (constructor : Ref) (v : ScriptValue) : Run Bool := do
  match v with
  | .object ref =>
    match ← getNamed constructor "prototype" with
    | .object proto =>
      let round (current : Ref) : Run (Except Bool Ref) := do
        match ← prototype current with
        | none => pure (.error false)
        | some p => if p = proto then pure (.error true) else pure (.ok p)
      match ← scan (fun _ current => round current) roundLimit 0 ref with
      | .error answer => pure answer
      | .ok _ => pure false
    | _ => throwTypeError "function has non-object prototype in instanceof check"
  | _ => pure false

/-- The prototype for what is being constructed: the target's, or the usual one. -/
def prototypeFor (target : Option Ref) (usual : Intrinsic) : Run Ref := do
  match target with
  | none => pure usual.ref
  | some target =>
    match ← getNamed target "prototype" with
    | .object proto => pure proto
    | _ => pure usual.ref

end ScriptHost.Script.Run
