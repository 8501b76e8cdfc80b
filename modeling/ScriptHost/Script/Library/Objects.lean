import ScriptHost.Script.Library.Basic

/-!
# Functions of objects

The functions of the object constructor and of the prototype of all objects.
-/

namespace ScriptHost.Script.Library

open Run

/-- The levels at which an object is closed to changes. -/
inductive Integrity
  | sealed
  | frozen
  deriving DecidableEq

/-- What a level asks of a property. -/
def Integrity.descriptor (level : Integrity) (p : Property) : Descriptor :=
  let d := { Descriptor.blank with configurable := some false }
  match level, p.slot with
  | .frozen, .data .. => { d with writable := some false }
  | _, _ => d

/-- Closes an object. -/
def setIntegrity (level : Integrity) (ref : Ref) : Run Bool := do
  if !(← preventExtensionsWith proxyOps ref) then pure false
  else
    forItems (← ownKeys ref) fun k => do
      match ← getOwn ref k with
      | some p => define ref k (level.descriptor p)
      | none => pure ()
    pure true

/-- The object is closed at a level. -/
def testIntegrity (level : Integrity) (ref : Ref) : Run Bool := do
  if ← isExtensibleWith proxyOps ref then pure false
  else
    foldItems (fun ok k => do
      match ← getOwn ref k with
      | some p =>
        let writable := match p.slot with
          | .data _ w => w
          | .accessor .. => false
        pure (ok && !p.configurable && !(level = .frozen && writable))
      | none => pure ok) (← ownKeys ref) true

/-- The own enumerable properties with text for keys. -/
def enumerableOwn (ref : Ref) : Run (List (Units × ScriptValue)) := do
  let found ← foldItems (fun (done : List (Units × ScriptValue)) k => do
    match k.toUnits? with
    | none => pure done
    | some text =>
      match ← getOwn ref k with
      | some p => if p.enumerable then do pure ((text, ← get ref k) :: done) else pure done
      | none => pure done) (← ownKeys ref) []
  pure found.reverse

/-- The keys of own enumerable properties with text for keys. -/
def enumerableOwnKeys (ref : Ref) : Run (List Units) := do
  let found ← foldItems (fun (done : List Units) k => do
    match k.toUnits? with
    | none => pure done
    | some text =>
      match ← getOwn ref k with
      | some p => pure (if p.enumerable then text :: done else done)
      | none => pure done) (← ownKeys ref) []
  pure found.reverse

/-- An array as a value. -/
def arrayValue (items : List ScriptValue) : Run ScriptValue :=
  ScriptValue.object <$> newArray items

/-- Defines all properties that an object describes. -/
def defineAll (ref : Ref) (described : ScriptValue) : Run Unit := do
  let source ← toObject described
  let definitions ← foldItems (fun (done : List (Key × Descriptor)) k => do
    match ← getOwn source k with
    | some p =>
      if p.enumerable then
        let d ← toDescriptorWith proxyOps (← get source k)
        pure ((k, d) :: done)
      else pure done
    | none => pure done) (← ownKeys source) []
  forItems definitions.reverse fun entry => define ref entry.1 entry.2

/-- The prototype that a value is meant to be. -/
def prototypeArgument (v : ScriptValue) : Run (Option Ref) := do
  match v with
  | .object ref => pure (some ref)
  | .null => pure none
  | v =>
    throwTypeError ("Object prototype may only be an Object or null: " ++
      String.ofList (unitChars (← read fun s => describeValue s v)))

/-- The name of an object's kind, by which it is shown as text. -/
def kindTag (ref : Ref) : Run String := do
  if ← isArray (.object ref) then pure "Array"
  else
    match ← kindOf ref with
    | .arguments .. => pure "Arguments"
    | .function _ => pure "Function"
    | .proxy _ calls _ => pure (if calls then "Function" else "Object")
    | .error _ => pure "Error"
    | .wrapper (.boolean _) => pure "Boolean"
    | .wrapper (.number _) => pure "Number"
    | .wrapper (.string _) => pure "String"
    | .date _ => pure "Date"
    | .regexp .. => pure "RegExp"
    | _ => pure "Object"

/-- Any value by the name of its kind. -/
def tagText (v : ScriptValue) : Run ScriptValue := do
  match v with
  | .undefined => pure (textValue "[object Undefined]")
  | .null => pure (textValue "[object Null]")
  | v =>
    let ref ← toObject v
    let usual ← kindTag ref
    match ← get ref WellKnown.toStringTag.key with
    | .string tag => pure (.string (Text.units "[object " ++ tag ++ [0x5D]))
    | _ => pure (textValue ("[object " ++ usual ++ "]"))

/-- Adds an item to the group of a key; each group has its last item first. -/
def addToGroup (k : Key) (item : ScriptValue) :
    List (Key × List ScriptValue) → List (Key × List ScriptValue)
  | [] => [(k, [item])]
  | entry :: rest =>
    if entry.1 = k then (k, item :: entry.2) :: rest else entry :: addToGroup k item rest

/-- The descriptor of an own property, as a value. -/
def ownDescriptor (ref : Ref) (k : Key) : Run ScriptValue := do
  match ← getOwn ref k with
  | some p => ScriptValue.object <$> descriptorObject p
  | none => pure .undefined

/-- Looks for an accessor along the prototypes. -/
def lookUpAccessor (ref : Ref) (k : Key) (wanted : Option Ref → Option Ref → Option Ref) :
    Run ScriptValue := do
  let round (_ : Nat) (current : Ref) : Run (Except ScriptValue Ref) := do
    match ← getOwn current k with
    | some ⟨.accessor g s, _, _⟩ =>
      pure (.error (((wanted g s).map ScriptValue.object).getD .undefined))
    | some _ => pure (.error .undefined)
    | none =>
      match ← prototype current with
      | some p => pure (.ok p)
      | none => pure (.error .undefined)
  match ← scan round roundLimit 0 ref with
  | .error v => pure v
  | .ok _ => pure .undefined

end ScriptHost.Script.Library

namespace ScriptHost.Script

open Run Library

/-- A function of objects. -/
def ObjectOp.run (op : ObjectOp) (i : Invocation) : Run ScriptValue :=
  match op with
  | construct => do
    match i.arg 0 with
    | .undefined | .null =>
      let proto ← prototypeFor i.target .objectPrototype
      ScriptValue.object <$> allocate (.empty (some proto) .ordinary)
    | v => ScriptValue.object <$> toObject v
  | assign => do
    let target ← toObject (i.arg 0)
    forItems (i.args.drop 1) fun source => do
      match source with
      | .undefined | .null => pure ()
      | source =>
        let ref ← toObject source
        forItems (← Run.ownKeys ref) fun k => do
          match ← getOwn ref k with
          | some p => if p.enumerable then set target k (← get ref k)
          | none => pure ()
    pure (.object target)
  | create => do
    let proto ← prototypeArgument (i.arg 0)
    let ref ← allocate (.empty proto .ordinary)
    match i.arg 1 with
    | .undefined => pure ()
    | described => defineAll ref described
    pure (.object ref)
  | defineProperties => do
    let ref ← requireRef "Expected an object" (i.arg 0)
    defineAll ref (i.arg 1)
    pure (.object ref)
  | defineProperty => do
    let ref ← requireRef "Object.defineProperty called on non-object" (i.arg 0)
    let k ← toKey (i.arg 1)
    let d ← toDescriptorWith proxyOps (i.arg 2)
    define ref k d
    pure (.object ref)
  | entries => do
    let found ← enumerableOwn (← toObject (i.arg 0))
    let pairs ← foldItems (fun (done : List ScriptValue) entry => do
      pure ((← arrayValue [.string entry.1, entry.2]) :: done)) found []
    arrayValue pairs.reverse
  | freeze => do
    match i.arg 0 with
    | .object ref =>
      if !(← setIntegrity .frozen ref) then throwTypeError "cannot freeze object"
      pure (.object ref)
    | v => pure v
  | fromEntries => do
    requireSomething (i.arg 0)
    let ref ← newObject
    let _ ← iterate (α := Empty) (i.arg 0) () fun item _ => do
      let pair ← requireRef "cannot get key and value from primitive item of \x60iterable\x60" item
      let k ← toKey (← get pair (.index 0))
      Run.create ref k (← get pair (.index 1))
      pure (.ok ())
    pure (.object ref)
  | .ownDescriptor => do
    let ref ← toObject (i.arg 0)
    Library.ownDescriptor ref (← toKey (i.arg 1))
  | ownDescriptors => do
    let ref ← toObject (i.arg 0)
    let answer ← newObject
    forItems (← Run.ownKeys ref) fun k => do
      match ← Library.ownDescriptor ref k with
      | .undefined => pure ()
      | v => Run.create answer k v
    pure (.object answer)
  | ownNames => do
    let ref ← toObject (i.arg 0)
    arrayValue ((← Run.ownKeys ref).filterMap fun k => k.toUnits?.map ScriptValue.string)
  | ownSymbols => do
    let ref ← toObject (i.arg 0)
    arrayValue (((← Run.ownKeys ref).filter Key.isSymbol).map Key.toValue)
  | prototypeOf => do
    let ref ← toObject (i.arg 0)
    pure (objectOrNull (← prototype ref))
  | .hasOwn => do
    let ref ← toObject (i.arg 0)
    flag (← Run.hasOwn ref (← toKey (i.arg 1)))
  | .sameValue => flag (Script.sameValue (i.arg 0) (i.arg 1))
  | isExtensible => do
    match i.arg 0 with
    | .object ref => flag (← isExtensibleWith proxyOps ref)
    | _ => flag false
  | isFrozen => do
    match i.arg 0 with
    | .object ref => flag (← testIntegrity .frozen ref)
    | _ => flag true
  | isSealed => do
    match i.arg 0 with
    | .object ref => flag (← testIntegrity .sealed ref)
    | _ => flag true
  | keys => do
    let ref ← toObject (i.arg 0)
    arrayValue ((← enumerableOwnKeys ref).map ScriptValue.string)
  | preventExtensions => do
    match i.arg 0 with
    | .object ref =>
      if !(← preventExtensionsWith proxyOps ref) then throwTypeError "cannot prevent extensions"
      pure (.object ref)
    | v => pure v
  | sealUp => do
    match i.arg 0 with
    | .object ref =>
      if !(← setIntegrity .sealed ref) then throwTypeError "cannot seal object"
      pure (.object ref)
    | v => pure v
  | setPrototypeOf => do
    let v := i.arg 0
    requireSomething v
    let proto ← match i.arg 1 with
      | .object p => pure (some p)
      | .null => pure none
      | w => throwTypeError ("expected an object or null, got \x60" ++ (← typeText w) ++ "\x60")
    match v with
    | .object ref =>
      if !(← setPrototype ref proto) then throwTypeError "can't set prototype of this object"
      pure v
    | v => pure v
  | values => do
    let found ← enumerableOwn (← toObject (i.arg 0))
    arrayValue (found.map (·.2))
  | hasOwnProperty => do
    let k ← toKey (i.arg 0)
    let ref ← toObject i.this
    flag (← Run.hasOwn ref k)
  | isPrototypeOf => do
    match i.arg 0 with
    | .object v => do
      let ref ← toObject i.this
      let round (_ : Nat) (current : Ref) : Run (Except Bool Ref) := do
        match ← prototype current with
        | some p => pure (if p = ref then .error true else .ok p)
        | none => pure (.error false)
      match ← scan round roundLimit 0 v with
      | .error answer => flag answer
      | .ok _ => flag false
    | _ => flag false
  | isEnumerable => do
    let k ← toKey (i.arg 0)
    let ref ← toObject i.this
    flag (((← getOwn ref k).map (·.enumerable)).getD false)
  | toLocaleText => do invoke i.this "toString" []
  | .toText => tagText i.this
  | valueOf => do ScriptValue.object <$> toObject i.this
  | readPrototype => do
    let ref ← toObject i.this
    pure (objectOrNull (← prototype ref))
  | writePrototype => do
    requireSomething i.this
    match i.this with
    | .object ref =>
      let proto? : Option (Option Ref) := match i.arg 0 with
        | .object p => some (some p)
        | .null => some none
        | _ => none
      match proto? with
      | some proto =>
        if !(← setPrototype ref proto) then throwTypeError "__proto__ called on null or undefined"
        pure .undefined
      | none => pure .undefined
    | _ => pure .undefined
  | defineGetter => do
    let ref ← toObject i.this
    let f ← requireFunction "Object.prototype.__defineGetter__: Expecting function" (i.arg 1)
    let d := { Descriptor.blank with
      getter := some (some f), enumerable := some true, configurable := some true }
    define ref (← toKey (i.arg 0)) d
    pure .undefined
  | defineSetter => do
    let ref ← toObject i.this
    let f ← requireFunction "Object.prototype.__defineSetter__: Expecting function" (i.arg 1)
    let d := { Descriptor.blank with
      setter := some (some f), enumerable := some true, configurable := some true }
    define ref (← toKey (i.arg 0)) d
    pure .undefined
  | lookUpGetter => do
    let ref ← toObject i.this
    lookUpAccessor ref (← toKey (i.arg 0)) fun g _ => g
  | lookUpSetter => do
    let ref ← toObject i.this
    lookUpAccessor ref (← toKey (i.arg 0)) fun _ s => s
  | groupBy => do
    requireSomething (i.arg 0)
    let f ← requireFunction "callback is not a callable object" (i.arg 1)
    let r ← iterate (α := Empty) (i.arg 0) (0, []) fun item (n, groups) => do
      let k ← toKey (← Run.call f .undefined [item, lengthValue n])
      pure (.ok (n + 1, addToGroup k item groups))
    let ref ← allocate (.empty none .ordinary)
    match r with
    | .ok (_, groups) =>
      forItems groups fun entry => do Run.create ref entry.1 (← arrayValue entry.2.reverse)
      pure (.object ref)

end ScriptHost.Script
