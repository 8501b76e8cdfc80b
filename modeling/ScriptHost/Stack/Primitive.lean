import ScriptHost.Stack.Session
import ScriptHost.Text.EngineText

/-!
# Primitives of the value stack

Slots are counted from the bottom.  A primitive pushes, pops or leaves alone exactly the slots that
it says; one that fails with `EngineError.thrown` leaves the thrown value on top, and one that fails
with `EngineError.fatal` leaves the slots as they were and the stack poisoned.

* kinds of slots: `SlotType`;
* depth: `depth`, `setDepth`, `pop`, `dup`;
* pushing: `pushValue` and its kin, `append`, `putProp`, `putGlobal`;
* inspection: `slotType`, `getBoolean`, `getNumber`, `getString`, `displayText`, `arrayLength`,
  `getIndex`, `ownKeys`, `getProp`;
* running: `runSource`, `callMethod`;
* failing: `poison`, `raise` (a machine failure becomes a thrown value, `leave`).
-/

namespace ScriptHost

/-- What a slot holds. -/
inductive SlotType
  /-- There is no such slot. -/
  | none
  | undefined
  | null
  | boolean
  | number
  | string
  /-- An object that is neither an array nor a function. -/
  | object
  | array
  | function
  /-- Symbols and big integers. -/
  | other
  deriving DecidableEq, Repr

namespace SlotType

/-- Property look-ups on such a slot are refused. -/
def isNullish : SlotType → Bool
  | undefined | null => true
  | _ => false

/-- What a script value is, given how objects look. -/
def ofValue (shape : Ref → Shape) : ScriptValue → SlotType
  | .undefined => undefined
  | .null => null
  | .boolean _ => boolean
  | .number _ => number
  | .string _ => string
  | .object ref =>
    match shape ref with
    | .function => function
    | .array => array
    | .plain => object
  | .symbol _ | .bigint _ => other

end SlotType

namespace Stack

variable {M : Machine} {κ ω ε α : Type}

/-! ## Failing -/

/-- Poisons the stack, unless it is poisoned already, and fails for good. -/
def poison (reason : String) : Stacked M κ ω EngineError α := fun _ s =>
  .error (.fatal reason) { s with poison := some (s.poison.getD reason) }

def isPoisoned : Stacked M κ ω ε Bool := .read fun s => s.poison.isSome

/-- Puts a value on top. -/
def pushValue (v : ScriptValue) : Stacked M κ ω ε Unit :=
  .update fun s => { s with slots := s.slots.push v }

/-- The value that stands for a failure: the thrown value, or a new range error for a limit. -/
def thrownValue (failure : Failure) : Stacked M κ ω ε ScriptValue :=
  match failure.cause with
  | .value v => pure v
  | .limit message => do
    let ref ← .make (M.newError .rangeError (Text.units message))
    pure (.object ref)

/-- Records the trace of a failure on the error object that leaves the machine with it.  An own
trace that is there already is kept, and an object that cannot take one does without. -/
def recordTrace (failure : Failure) (ref : Ref) : Stacked M κ ω ε Unit := do
  let name := Text.units "stack"
  match ← .act (M.hasOwn ref name) with
  | .ok false =>
    let text ← .read fun s => M.traceText s.world.machine failure
    let _ ← Stacked.act (M.defineHidden ref name (.string text))
    pure ()
  | _ => pure ()

/-- Fails with a machine failure: its value goes on top. -/
def raise (failure : Failure) : Stacked M κ ω EngineError α := do
  let v ← thrownValue failure
  if let .object ref := v then
    if ← .read fun s => M.isError s.world.machine ref then
      recordTrace failure ref
  pushValue v
  .fail .thrown

/-- A machine operation whose failure is thrown. -/
def perform (f : M.State → Act M.State α) : Stacked M κ ω EngineError α := do
  match ← .act f with
  | .ok a => pure a
  | .error failure => raise failure

/-! ## Depth -/

def depth : Stacked M κ ω ε Nat := .read fun s => s.slots.size

/-- Drops all slots from `n` on.  A poisoned stack is left alone, and a greater depth than there is
poisons the stack. -/
def setDepth (n : Nat) : Stacked M κ ω ε Unit :=
  .update fun s =>
    if s.poison.isSome then s
    else if s.slots.size < n then
      { s with poison := some s!"cannot raise stack depth from {s.slots.size} to {n}" }
    else { s with slots := s.slots.take n }

/-- The value in a slot. -/
def slot (index : Nat) : Stacked M κ ω EngineError ScriptValue := do
  match ← .read fun s => s.slots[index]? with
  | some v => pure v
  | none =>
    let n ← depth
    poison s!"stack index {index} out of range (depth {n})"

/-- The object in a slot. -/
def objectAt (index : Nat) : Stacked M κ ω EngineError Ref := do
  match ← slot index with
  | .object ref => pure ref
  | _ => poison s!"slot {index} is not an object"

/-- Removes the top value. -/
def takeTop : Stacked M κ ω EngineError ScriptValue := do
  match ← .read fun s => s.slots.back? with
  | some v =>
    .update fun s => { s with slots := s.slots.pop }
    pure v
  | none => poison "value stack underflow"

def pop : Stacked M κ ω EngineError Unit := do
  let _ ← takeTop

/-- Copies a slot to the top. -/
def dup (index : Nat) : Stacked M κ ω EngineError Unit := do
  let v ← slot index
  pushValue v

/-! ## Pushing -/

def pushUndefined : Stacked M κ ω ε Unit := pushValue .undefined

def pushNull : Stacked M κ ω ε Unit := pushValue .null

def pushBoolean (b : Bool) : Stacked M κ ω ε Unit := pushValue (.boolean b)

def pushNumber (x : Float) : Stacked M κ ω ε Unit := pushValue (.number x)

/-- Pushes engine text. -/
def pushString (text : List UInt8) : Stacked M κ ω ε Unit :=
  pushValue (.string (Text.decodeUnits text))

def pushGlobal : Stacked M κ ω ε Unit := do
  let ref ← .read fun s => M.global s.world.machine
  pushValue (.object ref)

/-- Pushes an empty array and answers with its slot. -/
def pushArray : Stacked M κ ω ε Nat := do
  let index ← depth
  let ref ← .make M.newArray
  pushValue (.object ref)
  pure index

/-- Pushes an empty object and answers with its slot. -/
def pushObject : Stacked M κ ω ε Nat := do
  let index ← depth
  let ref ← .make M.newObject
  pushValue (.object ref)
  pure index

/-- Pushes a new error. -/
def pushError (kind : ErrorKind) (message : String) : Stacked M κ ω ε Unit := do
  let ref ← .make (M.newError kind (Text.units message))
  pushValue (.object ref)

/-- Pushes a function of this name that calls the host function `body`. -/
def pushNative (name : String) (body : κ) : Stacked M κ ω ε Unit := do
  let id ← .read fun s => NativeId.mk s.world.natives.size
  .update fun s => { s with world := { s.world with natives := s.world.natives.push body } }
  let ref ← .make (M.newNative (Text.units name) id)
  pushValue (.object ref)

/-- The array in a slot. -/
def arrayAt (index : Nat) : Stacked M κ ω EngineError Ref := do
  let ref ← objectAt index
  match ← .read fun s => M.shape s.world.machine ref with
  | .array => pure ref
  | _ => poison s!"slot {index} is not an array"

/-- Moves the top value to the end of the array in slot `index`. -/
def append (index : Nat) : Stacked M κ ω EngineError Unit := do
  let ref ← arrayAt index
  let v ← takeTop
  perform (M.append ref v)

/-- Moves the top value into the own property `key` of the object in slot `index`. -/
def putProp (index : Nat) (key : List UInt8) : Stacked M κ ω EngineError Unit := do
  let ref ← objectAt index
  let v ← takeTop
  perform (M.define ref (Text.decodeUnits key) v)

/-- Moves the top value into a property of the global object. -/
def putGlobal (name : List UInt8) : Stacked M κ ω EngineError Unit := do
  let v ← takeTop
  perform (M.setGlobal (Text.decodeUnits name) v)

/-! ## Inspection -/

def slotType (index : Nat) : Stacked M κ ω ε SlotType :=
  .read fun s =>
    match s.slots[index]? with
    | some v => SlotType.ofValue (M.shape s.world.machine) v
    | none => .none

/-- The truth value in a slot, false for any other slot. -/
def getBoolean (index : Nat) : Stacked M κ ω ε Bool :=
  .read fun s => match s.slots[index]? with
    | some (.boolean b) => b
    | _ => false

/-- The number in a slot, not-a-number for any other slot. -/
def getNumber (index : Nat) : Stacked M κ ω ε Float :=
  .read fun s => match s.slots[index]? with
    | some (.number x) => x
    | _ => 0 / 0

/-- The engine text of a string slot. -/
def getString (index : Nat) : Stacked M κ ω ε (Option (List UInt8)) :=
  .read fun s => match s.slots[index]? with
    | some (.string text) => some (Text.encodeUnits text)
    | _ => none

/-- The engine text of any slot as script would print it.  That runs script; nothing comes of a slot
that throws or is missing. -/
def displayText (index : Nat) : Stacked M κ ω ε (Option (List UInt8)) := do
  match ← .read fun s => s.slots[index]? with
  | none => pure none
  | some v =>
    match ← .act (M.toText v) with
    | .ok text => pure (some (Text.encodeUnits text))
    | .error _ => pure none

/-- The length of the array in a slot. -/
def arrayLength (index : Nat) : Stacked M κ ω EngineError Nat := do
  let ref ← arrayAt index
  perform (M.length ref)

/-- Pushes an element of the object in slot `index`. -/
def getIndex (index element : Nat) : Stacked M κ ω EngineError Unit := do
  let ref ← objectAt index
  let v ← perform (M.element ref element)
  pushValue v

/-- The keys among `keys` that are enumerable, as engine text. -/
def enumerableKeys (ref : Ref) : List Units → Stacked M κ ω EngineError (List (List UInt8))
  | [] => pure []
  | key :: rest => do
    let shown ← perform (M.isEnumerable ref key)
    let others ← enumerableKeys ref rest
    pure (if shown then Text.encodeUnits key :: others else others)

/-- The own enumerable string keys of the object in a slot, as engine text. -/
def ownKeys (index : Nat) : Stacked M κ ω EngineError (List (List UInt8)) := do
  let ref ← objectAt index
  let keys ← perform (M.keys ref)
  enumerableKeys ref keys

/-- Pushes a property of the value in slot `index`, and answers whether it exists. -/
def getProp (index : Nat) (key : List UInt8) : Stacked M κ ω EngineError Bool := do
  let base ← slot index
  let name := Text.decodeUnits key
  let ref ← perform (M.toObject base)
  let found ← perform (M.has ref name)
  let v ← perform (M.get ref name)
  pushValue v
  pure found

/-! ## Running -/

/-- Runs source as a global script and pushes its completion value. -/
def runSource (source : List UInt8) (filename : String) : Stacked M κ ω EngineError Unit := do
  let v ← perform (M.run source filename)
  pushValue v

/-- Calls the function below the receiver and `count` arguments on top,
which its result replaces. -/
def callMethod (count : Nat) : Stacked M κ ω EngineError Unit := do
  let n ← depth
  if n < count + 2 then poison s!"call with {count} arguments on a stack of depth {n}"
  let args ← .read fun s => (s.slots.drop (n - count)).toList
  .update fun s => { s with slots := s.slots.take (n - count) }
  let this ← takeTop
  let function ← takeTop
  let callee? ← Stacked.read fun s => match function with
    | .object ref => if M.shape s.world.machine ref = .function then some ref else none
    | _ => none
  match callee? with
  | none =>
    pushError .typeError "not callable"
    .fail .thrown
  | some ref =>
    let v ← perform (M.call ref this args)
    pushValue v

end Stack

end ScriptHost
