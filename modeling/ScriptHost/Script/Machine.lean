import ScriptHost.Machine.Basic
import ScriptHost.Script.Realm
import ScriptHost.Script.Trampoline

/-!
# The script machine

`scriptMachine` is the machine of this library: it reads source, runs it, and offers its objects to
the embedding.  How the calls of scripts are answered is a matter of its driver (`scriptMachineBy`).
-/

namespace ScriptHost

open Script

/-- The class of the errors that the host makes. -/
def ErrorKind.errorClass : ErrorKind → ErrorClass
  | error => .error
  | typeError => .typeError
  | referenceError => .referenceError
  | syntaxError => .syntaxError
  | rangeError => .rangeError

namespace Script

open Run

/-- How an object looks to the host. -/
def shapeOf (s : State) (ref : Ref) : Shape :=
  match (s.heap.lookUp ref).kind with
  | .array .. => .array
  | .function _ => .function
  | .proxy _ true _ => .function
  | _ => .plain

/-- The object was made by an error constructor. -/
def isErrorObject (s : State) (ref : Ref) : Bool :=
  match (s.heap.lookUp ref).kind with
  | .error _ => true
  | _ => false

/-- Stores a new object. -/
def store (o : Object) (s : State) : Ref × State :=
  let (ref, heap) := s.heap.allocate o
  (ref, { s with heap := heap })

/-- Runs source bytes as a script of a file, in a frame of its own. -/
def runBytes (source : List UInt8) (file : String) : Run ScriptValue := do
  match readBytes source with
  | .error message => throwNew .syntaxError message
  | .ok code =>
    update fun s => { s with frames := ⟨"<main>", some file, none, callSlots⟩ :: s.frames }
    runScriptCode code file

end Script

/-- The script machine with a driver. -/
def scriptMachineBy (driver : Driver) : Machine where
  State := State
  fresh := freshState
  global _ := Intrinsic.global.ref
  shape := shapeOf
  isError := isErrorObject
  newArray := store (.empty (some Intrinsic.arrayPrototype.ref) (.array 0 true))
  newObject := store (.empty (some Intrinsic.objectPrototype.ref) .ordinary)
  newError kind message := store (Run.errorObject kind.errorClass message none)
  newNative name id := store (functionObject Intrinsic.functionPrototype.ref
    ⟨.native id, frameLabel name, false⟩ name 0)
  describe := describeValue
  append ref v := driver.drive do
    let _ ← ArrayOp.run .push ⟨.object ref, [v], none⟩
  define ref name v := driver.drive (Run.create ref (.ofUnits name) v)
  defineHidden ref name v := driver.drive do
    let _ ← Run.defineWith Run.proxyOps ref (.ofUnits name) (.ofProperty (.hidden v))
    pure ()
  length ref := driver.drive (Run.itemCount ref)
  element ref n := driver.drive (Run.get ref (.ofNat n))
  keys ref := driver.drive do
    let keys ← Run.ownKeys ref
    pure (keys.filterMap Key.toUnits?)
  isEnumerable ref name := driver.drive do
    let p ← Run.getOwn ref (.ofUnits name)
    pure ((p.map (·.enumerable)).getD false)
  hasOwn ref name := driver.drive (Run.hasOwn ref (.ofUnits name))
  has ref name := driver.drive (Run.has ref (.ofUnits name))
  get ref name := driver.drive (Run.get ref (.ofUnits name))
  setGlobal name v := driver.drive (Run.set Intrinsic.global.ref (.ofUnits name) v)
  toObject v := driver.drive (Run.toObject v)
  toText v := driver.drive (Run.toText v)
  run source file := driver.drive (runBytes source file)
  call ref this args := driver.drive (Run.call ref this args)

/-- The script machine. -/
def scriptMachine : Machine := scriptMachineBy .trampoline

end ScriptHost
