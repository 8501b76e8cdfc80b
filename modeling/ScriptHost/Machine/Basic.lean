import ScriptHost.Machine.Act

/-!
# Script machines

`Machine` is what the embedding needs from a script machine: making objects, looking at them,
running source and calling functions.  Operations that may run script are runs (`Act`); the others
only read or extend the machine's store.
-/

namespace ScriptHost

/-- A script machine. -/
structure Machine where
  /-- The states of the machine. -/
  State : Type
  /-- The state of a new machine. -/
  fresh : State
  global : State → Ref
  shape : State → Ref → Shape
  /-- The object was made by an error constructor. -/
  isError : State → Ref → Bool
  newArray : State → Ref × State
  newObject : State → Ref × State
  newError : ErrorKind → Units → State → Ref × State
  /-- A function of this name that calls the host. -/
  newNative : Units → NativeId → State → Ref × State
  /-- How a thrown value is written at the head of a trace; runs no script. -/
  describe : State → ScriptValue → Units
  /-- Appends to an array. -/
  append : Ref → ScriptValue → State → Act State Unit
  /-- Defines an own data property, or throws. -/
  define : Ref → Units → ScriptValue → State → Act State Unit
  /-- Defines an own property that is writable and configurable but hidden,
  if the object takes it. -/
  defineHidden : Ref → Units → ScriptValue → State → Act State Unit
  /-- The length of an array. -/
  length : Ref → State → Act State Nat
  /-- The element at an index, own or inherited. -/
  element : Ref → Nat → State → Act State ScriptValue
  /-- The own string keys in the object's order. -/
  keys : Ref → State → Act State (List Units)
  /-- The own property exists and is enumerable. -/
  isEnumerable : Ref → Units → State → Act State Bool
  hasOwn : Ref → Units → State → Act State Bool
  /-- The property exists, own or inherited. -/
  has : Ref → Units → State → Act State Bool
  get : Ref → Units → State → Act State ScriptValue
  /-- Assigns to a property of the global object, or throws. -/
  setGlobal : Units → ScriptValue → State → Act State Unit
  /-- The object of a value; throws for the two missing values. -/
  toObject : ScriptValue → State → Act State Ref
  toText : ScriptValue → State → Act State Units
  /-- Runs source bytes as a global script with a file name; ends with its completion value. -/
  run : List UInt8 → String → State → Act State ScriptValue
  call : Ref → ScriptValue → List ScriptValue → State → Act State ScriptValue

namespace Machine

variable (M : Machine)

/-- The text that shows where a failure came from: what failed, then a line for each frame. -/
def traceText (s : M.State) (failure : Failure) : Units :=
  let head := match failure.cause with
    | .value v => M.describe s v
    | .limit message => Text.units ("RuntimeLimit: " ++ message)
  head ++ failure.trace.flatMap fun line => Text.units ("\n    at " ++ line)

end Machine

end ScriptHost
