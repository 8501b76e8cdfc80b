import ScriptHost.Script.Library.Functions

/-!
# Iterators and keyed collections

The iterators of arrays, texts and collections, and maps and sets in their order of insertion.
Deleted entries leave a gap, so an iterator over a collection keeps its place.
-/

namespace ScriptHost.Script.Library

open Run

/-- What an iterator yields for a key and a value. -/
def yieldedValue (yields : Yield) (k v : ScriptValue) : Run ScriptValue :=
  match yields with
  | .key => pure k
  | .value => pure v
  | .entry => arrayValue [k, v]

/-- Replaces the kind of an object. -/
def setKind (ref : Ref) (kind : Kind) : Run Unit :=
  modifyObject ref fun o => { o with kind := kind }

/-- The first entry from `next` on that is not a gap; `fuel` bounds their number. -/
def nextEntry (entries : Array (Option (ScriptValue × ScriptValue))) :
    (fuel next : Nat) → Option (Nat × ScriptValue × ScriptValue)
  | 0, _ => none
  | fuel + 1, next =>
    match entries[next]? with
    | none => none
    | some none => nextEntry entries fuel (next + 1)
    | some (some (k, v)) => some (next, k, v)

/-- The step of an iterator. -/
def iteratorNext (this : ScriptValue) : Run ScriptValue := do
  let ref ← requireRef "\x60this\x60 is not an iterator" this
  match ← kindOf ref with
  | .arrayIterator (some target) n yields =>
    let count ← itemCount target
    if count ≤ n then
      setKind ref (.arrayIterator none n yields)
      iterationResult .undefined true
    else
      setKind ref (.arrayIterator (some target) (n + 1) yields)
      let v ← match yields with
        | .key => pure .undefined
        | _ => get target (.ofNat n)
      iterationResult (← yieldedValue yields (lengthValue n) v) false
  | .arrayIterator none _ _ => iterationResult .undefined true
  | .textIterator [] => iterationResult .undefined true
  | .textIterator (u :: rest) =>
    let (one, rest) := match rest with
      | v :: more => if Text.isHigh u && Text.isLow v then ([u, v], more) else ([u], rest)
      | [] => ([u], [])
    setKind ref (.textIterator rest)
    iterationResult (.string one) false
  | .collectionIterator (some target) n yields =>
    match ← kindOf target with
    | .collection _ entries =>
      match nextEntry entries (entries.size + 1) n with
      | some (place, k, v) =>
        setKind ref (.collectionIterator (some target) (place + 1) yields)
        iterationResult (← yieldedValue yields k v) false
      | none =>
        setKind ref (.collectionIterator none n yields)
        iterationResult .undefined true
    | _ => iterationResult .undefined true
  | .collectionIterator none _ _ => iterationResult .undefined true
  | _ => throwTypeError "\x60this\x60 is not an iterator"

/-- The name of a collection's class. -/
def collectionName : CollectionKind → String
  | .map => "Map"
  | .set => "Set"
  | .weakMap => "WeakMap"
  | .weakSet => "WeakSet"

/-- The prototype of the collections of a kind. -/
def collectionPrototype : CollectionKind → Intrinsic
  | .map => .mapPrototype
  | .set => .setPrototype
  | .weakMap => .weakMapPrototype
  | .weakSet => .weakSetPrototype

/-- A collection and its entries. -/
structure Collected where
  ref : Ref
  entries : Array (Option (ScriptValue × ScriptValue))

/-- The receiver as a collection of a kind. -/
def collected (kind : CollectionKind) (this : ScriptValue) : Run Collected := do
  let message := "'this' is not a " ++ collectionName kind
  let ref ← requireRef message this
  match ← kindOf ref with
  | .collection k entries => if k = kind then pure ⟨ref, entries⟩ else throwTypeError message
  | _ => throwTypeError message

/-- The place of the entry of a key. -/
def Collected.place? (c : Collected) (k : ScriptValue) : Option Nat :=
  c.entries.findIdx? fun entry => match entry with
    | some (key, _) => sameKey key k
    | none => false

/-- Replaces the entries of a collection. -/
def Collected.replace (c : Collected) (kind : CollectionKind)
    (entries : Array (Option (ScriptValue × ScriptValue))) : Run Unit :=
  setKind c.ref (.collection kind entries)

/-- A key of a collection: a negative zero is zero, and weak collections take objects only. -/
def collectionKey (kind : CollectionKind) (k : ScriptValue) : Run ScriptValue := do
  match kind, k with
  | .map, .number x | .set, .number x => pure (.number (if x == 0 then 0 else x))
  | .map, k | .set, k => pure k
  | _, .object ref => pure (.object ref)
  | _, k =>
    throwTypeError (collectionName kind ++
      ".set: expected target argument of type \x60object\x60, got target of type \x60" ++
        (← typeText k) ++ "\x60")

/-- Gives an entry a value. -/
def putEntry (kind : CollectionKind) (c : Collected) (k v : ScriptValue) : Run Unit := do
  let k ← collectionKey kind k
  c.replace kind <| match c.place? k with
    | some n => c.entries.setIfInBounds n (some (k, v))
    | none => c.entries.push (some (k, v))

/-- A new collection filled from an iterable. -/
def makeCollection (kind : CollectionKind) (i : Invocation) : Run ScriptValue := do
  match i.target with
  | none => throwTypeError ("calling a builtin " ++ collectionName kind ++
      " constructor without new is forbidden")
  | some target =>
    let proto ← prototypeFor (some target) (collectionPrototype kind)
    let ref ← allocate (.empty (some proto) (.collection kind #[]))
    match i.arg 0 with
    | .undefined | .null => pure ()
    | iterable =>
      let isMap := kind = .map || kind = .weakMap
      let adder ← getNamed ref (if isMap then "set" else "add")
      let f ← requireFunction "'add' is not a function" adder
      let _ ← iterate (α := Empty) iterable () fun item _ => do
        if isMap then
          let pair ← requireRef "cannot get key and value from primitive item of \x60iterable\x60"
            item
          let k ← get pair (.index 0)
          let v ← get pair (.index 1)
          let _ ← Run.call f (.object ref) [k, v]
          pure (.ok ())
        else
          let _ ← Run.call f (.object ref) [item]
          pure (.ok ())
    pure (.object ref)

/-- A new iterator over a collection. -/
def collectionIterator (kind : CollectionKind) (this : ScriptValue) (yields : Yield) :
    Run ScriptValue := do
  let c ← collected kind this
  let proto : Intrinsic := if kind = .map then .mapIteratorPrototype else .setIteratorPrototype
  ScriptValue.object <$> allocate
    (.empty (some proto.ref) (.collectionIterator (some c.ref) 0 yields))

end ScriptHost.Script.Library

namespace ScriptHost.Script

open Run Library

/-- A function of iterators. -/
def IteratorOp.run (op : IteratorOp) (i : Invocation) : Run ScriptValue :=
  match op with
  | itself => pure i.this
  | next => iteratorNext i.this

/-- A function of keyed collections. -/
def CollectionOp.run (op : CollectionOp) (kind : CollectionKind) (i : Invocation) :
    Run ScriptValue :=
  match op with
  | construct => makeCollection kind i
  | get => do
    let c ← collected kind i.this
    pure <| match c.place? (i.arg 0) with
      | some n => (((c.entries[n]?).bind id).map (·.2)).getD .undefined
      | none => .undefined
  | set => do
    let c ← collected kind i.this
    putEntry kind c (i.arg 0) (i.arg 1)
    pure i.this
  | add => do
    let c ← collected kind i.this
    putEntry kind c (i.arg 0) (i.arg 0)
    pure i.this
  | has => do
    let c ← collected kind i.this
    flag (c.place? (i.arg 0)).isSome
  | delete => do
    let c ← collected kind i.this
    match c.place? (i.arg 0) with
    | some n =>
      c.replace kind (c.entries.setIfInBounds n none)
      flag true
    | none => flag false
  | clear => do
    let c ← collected kind i.this
    c.replace kind (c.entries.map fun _ => none)
    pure .undefined
  | size => do
    let c ← collected kind i.this
    pure (lengthValue (c.entries.countP Option.isSome))
  | forEach => do
    let _ ← collected kind i.this
    let f ← requireFunction "callback is not a function" (i.arg 0)
    let round (_ n : Nat) : Run (Except Unit Nat) := do
      let c ← collected kind i.this
      match nextEntry c.entries (c.entries.size + 1) n with
      | some (place, k, v) =>
        let _ ← Run.call f (i.arg 1) [v, k, .object c.ref]
        pure (.ok (place + 1))
      | none => pure (.error ())
    let _ ← scan round roundLimit 0 0

    pure .undefined
  | entries => collectionIterator kind i.this .entry
  | keys => collectionIterator kind i.this .key
  | values => collectionIterator kind i.this .value

end ScriptHost.Script
