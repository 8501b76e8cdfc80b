import ScriptHost.Script.Heap

/-!
# The state of the script machine

Objects, scopes, symbols, and the frames of the functions that are active.  Objects that every
machine has stand at fixed places (`Intrinsic`).

* scopes: `Scope`, `Binding`, `State.findBinding`;
* frames: `Frame`, `Frame.line`.
-/

namespace ScriptHost.Script

/-- Objects that every machine has, in the order of their places. -/
inductive Intrinsic
  | global
  | objectPrototype
  | functionPrototype
  | arrayPrototype
  | errorPrototype
  | typeErrorPrototype
  | referenceErrorPrototype
  | syntaxErrorPrototype
  | rangeErrorPrototype
  | evalErrorPrototype
  | uriErrorPrototype
  | aggregateErrorPrototype
  | stringPrototype
  | numberPrototype
  | booleanPrototype
  | symbolPrototype
  | bigintPrototype
  | datePrototype
  | regexpPrototype
  | mapPrototype
  | setPrototype
  | weakMapPrototype
  | weakSetPrototype
  | promisePrototype
  | iteratorPrototype
  | arrayIteratorPrototype
  | textIteratorPrototype
  | mapIteratorPrototype
  | setIteratorPrototype
  | typedArrayPrototype
  | bufferPrototype
  | generatorPrototype
  | arrayConstructor
  | throwingAccessor
  deriving DecidableEq, Repr

namespace Intrinsic

/-- The place of the object. -/
def ref (i : Intrinsic) : Ref := i.ctorIdx

/-- All of them, in order. -/
def all : List Intrinsic :=
  [global, objectPrototype, functionPrototype, arrayPrototype, errorPrototype, typeErrorPrototype,
    referenceErrorPrototype, syntaxErrorPrototype, rangeErrorPrototype, evalErrorPrototype,
    uriErrorPrototype, aggregateErrorPrototype, stringPrototype, numberPrototype, booleanPrototype,
    symbolPrototype, bigintPrototype, datePrototype, regexpPrototype, mapPrototype, setPrototype,
    weakMapPrototype, weakSetPrototype, promisePrototype, iteratorPrototype, arrayIteratorPrototype,
    textIteratorPrototype, mapIteratorPrototype, setIteratorPrototype, typedArrayPrototype,
    bufferPrototype, generatorPrototype, arrayConstructor, throwingAccessor]

end Intrinsic

/-- The prototype of the errors of a class. -/
def ErrorClass.prototype : ErrorClass → Intrinsic
  | error => .errorPrototype
  | typeError => .typeErrorPrototype
  | referenceError => .referenceErrorPrototype
  | syntaxError => .syntaxErrorPrototype
  | rangeError => .rangeErrorPrototype
  | evalError => .evalErrorPrototype
  | uriError => .uriErrorPrototype
  | aggregateError => .aggregateErrorPrototype

/-- What a name stands for. -/
structure Binding where
  /-- Nothing before the declaration has run. -/
  value : Option ScriptValue
  /-- Assignments to it fail. -/
  constant : Bool
  /-- Assignments to it fail only in strict code. -/
  silent : Bool
  /-- It lives in a scope that other functions can see. -/
  shared : Bool

/-- A name that can be assigned to and has a value. -/
def Binding.plain (v : ScriptValue) : Binding := ⟨some v, false, false, false⟩

/-- A name that has its value for good. -/
def Binding.constantly (v : ScriptValue) : Binding := ⟨some v, true, false, false⟩

/-- A name that has been declared and not reached. -/
def Declared.unreached (d : Declared) : Units × Binding :=
  (d.name, ⟨none, d.constant, false, d.shared⟩)

/-- The call that a function's scope belongs to. -/
structure Activation where
  /-- Nothing before the superclass has been called. -/
  this : Option ScriptValue
  callee : Ref
  /-- What is being constructed, if anything is. -/
  target : Option Ref
  home : Option Ref

/-- A scope: names, and where to look on. -/
structure Scope where
  names : List (Units × Binding)
  parent : Option ScopeRef
  activation : Option Activation
  /-- Names declared by `var` go no further outwards. -/
  holdsVars : Bool
  /-- The object of arguments whose elements follow names of this scope. -/
  arguments : Option Ref := none

instance : Inhabited Scope := ⟨⟨[], none, none, true, none⟩⟩

/-- An active function: its name, its file unless it is built in,
the position reached, and its slots. -/
structure Frame where
  label : String
  file : Option String
  pos : Option Position
  slots : Nat

namespace Frame

/-- The frame of a built-in function. -/
def builtin (label : String) : Frame := ⟨label, none, none, 0⟩

/-- The frame as a trace shows it. -/
def line (f : Frame) : String :=
  let place := match f.file, f.pos with
    | none, _ => "native"
    | some file, some pos =>
      let l := pos.line
      let k := pos.column
      file ++ s!":{l}:{k}"
    | some file, none => file ++ ":?:?"
  f.label ++ " (" ++ place ++ ")"

/-- The place that the frame has reached. -/
def origin? (f : Frame) : Option Origin := f.file.map (⟨·, f.pos⟩)

end Frame

/-- How many frames a trace shows. -/
def traceLimit : Nat := 50

/-- How many frames may be active. -/
def frameLimit : Nat := 512

/-- How many slots all active frames may have. -/
def slotLimit : Nat := 10240

/-- The state of a machine. -/
structure State where
  heap : Heap
  scopes : Array Scope
  /-- The descriptions of the symbols, by number. -/
  symbols : Array (Option Units)
  /-- The symbols that are found by a text. -/
  registered : List (Units × Nat)
  /-- The innermost frame comes first. -/
  frames : List Frame
  /-- The objects that are being turned into primitives by their own methods. -/
  converting : List Ref

/-- The scope of names declared by `let`, `const` and `class` at the top of scripts.  Behind it come
the properties of the global object. -/
def globalScope : ScopeRef := 0

namespace State

/-- The frames of a trace taken now: built-in functions at its top are left out. -/
def trace (s : State) : List Frame := s.frames.dropWhile fun f => f.file.isNone

/-- The scope at a place. -/
def scope (s : State) (ref : ScopeRef) : Scope := s.scopes.getD ref default

/-- The scope in which a name is found on the way outwards, and its binding there. -/
def findBindingFrom (s : State) (name : Units) :
    (fuel : Nat) → ScopeRef → Option (ScopeRef × Binding)
  | 0, _ => none
  | fuel + 1, ref =>
    let scope := s.scope ref
    match scope.names.lookup name with
    | some b => some (ref, b)
    | none =>
      match scope.parent with
      | some parent => s.findBindingFrom name fuel parent
      | none => none

/-- The scope in which a name is found, starting at `ref`, and its binding there. -/
def findBinding (s : State) (name : Units) (ref : ScopeRef) : Option (ScopeRef × Binding) :=
  s.findBindingFrom name s.scopes.size ref

/-- The innermost call around a scope, and the scope that it belongs to. -/
def findActivationFrom (s : State) : (fuel : Nat) → ScopeRef → Option (ScopeRef × Activation)
  | 0, _ => none
  | fuel + 1, ref =>
    let scope := s.scope ref
    match scope.activation with
    | some a => some (ref, a)
    | none =>
      match scope.parent with
      | some parent => s.findActivationFrom fuel parent
      | none => none

def findActivation (s : State) (ref : ScopeRef) : Option (ScopeRef × Activation) :=
  s.findActivationFrom s.scopes.size ref

/-- The scope that takes the names declared by `var` in `ref`. -/
def varScopeFrom (s : State) : (fuel : Nat) → ScopeRef → ScopeRef
  | 0, ref => ref
  | fuel + 1, ref =>
    let scope := s.scope ref
    if scope.holdsVars then ref
    else
      match scope.parent with
      | some parent => s.varScopeFrom fuel parent
      | none => ref

def varScope (s : State) (ref : ScopeRef) : ScopeRef := s.varScopeFrom s.scopes.size ref

/-- Replaces the binding of a name, or adds it. -/
def putBinding (name : Units) (b : Binding) : List (Units × Binding) → List (Units × Binding)
  | [] => [(name, b)]
  | entry :: rest => if entry.1 = name then (name, b) :: rest else entry :: putBinding name b rest

/-- Binds a name in a scope; an element of the call's arguments may follow. -/
def bind (s : State) (ref : ScopeRef) (name : Units) (b : Binding) : State :=
  let heap := match (s.scope ref).arguments, b.value with
    | some args, some v => s.heap.modify args fun o => o.follow name v
    | _, _ => s.heap
  { s with
    heap := heap
    scopes := s.scopes.modify ref fun scope =>
      { scope with names := putBinding name b scope.names } }

/-- Gives a name that is bound in a scope another value. -/
def rebind (s : State) (ref : ScopeRef) (name : Units) (v : ScriptValue) : State :=
  match (s.scope ref).names.lookup name with
  | some b => s.bind ref name { b with value := some v }
  | none => s

/-- Makes a new scope. -/
def addScope (s : State) (scope : Scope) : ScopeRef × State :=
  (s.scopes.size, { s with scopes := s.scopes.push scope })

/-- The position that the innermost frame has reached. -/
def position (s : State) : Option Position := s.frames.head?.bind (·.pos)

/-- Notes the position that the innermost frame has reached. -/
def reach (s : State) (pos : Option Position) : State :=
  match s.frames with
  | f :: rest => { s with frames := { f with pos := pos } :: rest }
  | [] => s

end State

end ScriptHost.Script
