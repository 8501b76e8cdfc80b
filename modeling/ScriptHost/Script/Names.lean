import ScriptHost.Script.Conversion
import ScriptHost.Script.Grammar.Source
import ScriptHost.Text.Utf16

/-!
# Names and functions at run time

* positions: `located`;
* names: `readName`, `assignName`, `declareName`;
* what surrounds code: `thisValue`, `superHome`;
* places: `Target`, `Target.read`, `Target.write`, `Target.delete`;
* functions: `makeFunctionObject`, `instantiateFunctions`;
* the names of a script: `declareGlobals`.
-/

namespace ScriptHost.Script

open Run

/-- Where code runs: its scope, its strictness and its file. -/
structure Env where
  scope : ScopeRef
  strict : Bool
  file : String

/-- Does something at a position of the code, if there is one,
and is back behind it where it was before. -/
def located {α : Type} (pos : Option Position) (x : Run α) : Run α := do
  match pos with
  | none => x
  | some pos =>
    let before ← read fun s => s.position
    update fun s => s.reach (some pos)
    let a ← x
    update fun s => s.reach before
    pure a

/-- Tries something; where it ends early, the code is back where it was before. -/
def attemptHere {α : Type} (x : Run α) : Run (Except Signal α) := do
  let before ← read fun s => s.position
  let result ← x.attempt
  update fun s => s.reach before
  pure result

/-! ## Names -/

/-- Throws because a name that lives in its function's frame has not been reached. -/
def throwUnreached {α : Type} : Run α := throwNew .referenceError "access of uninitialized binding"

/-- The value of a name; nothing if there is no such name, or none that other functions can see and
that has been reached. -/
def readName? (env : Env) (name : Units) : Run (Option ScriptValue) := do
  match ← read fun s => s.findBinding name env.scope with
  | some (_, ⟨some v, _, _, _⟩) => pure (some v)
  | some (_, ⟨none, _, _, true⟩) => pure none
  | some (_, ⟨none, _, _, false⟩) => throwUnreached
  | none =>
    let global := Intrinsic.global.ref
    let k := Key.ofUnits name
    if ← has global k then some <$> get global k else pure none

/-- The value of a name. -/
def readName (env : Env) (name : Units) : Run ScriptValue := do
  match ← readName? env name with
  | some v => pure v
  | none => throwNew .referenceError (nameText name ++ " is not defined")

/-- Assigns to a name. -/
def assignName (env : Env) (name : Units) (v : ScriptValue) : Run Unit := do
  match ← read fun s => s.findBinding name env.scope with
  | some (_, ⟨_, true, silent, _⟩) =>
    if env.strict || !silent then
      throwTypeError ("cannot mutate an immutable binding '" ++ nameText name ++ "'")
  | some (_, ⟨none, false, _, true⟩) =>
    throwNew .referenceError
      ("cannot assign to uninitialized binding \x60" ++ nameText name ++ "\x60")
  | some (_, ⟨none, false, _, false⟩) => throwUnreached
  | some (scope, ⟨some _, false, _, _⟩) => update fun s => s.rebind scope name v
  | none =>
    let global := Intrinsic.global.ref
    let k := Key.ofUnits name
    if env.strict && !(← has global k) then
      throwNew .referenceError
        ("cannot assign to uninitialized global property \x60" ++ nameText name ++ "\x60")
    setValue (.object global) k v env.strict

/-- Gives a declared name its first value. -/
def declareName (env : Env) (kind : DeclarationKind) (name : Units) (v : ScriptValue) :
    Run Unit := do
  match kind with
  | .var => assignName env name v
  | .mutable => update fun s => s.bind env.scope name (.plain v)
  | .constant => update fun s => s.bind env.scope name (.constantly v)

/-- A new scope inside `env`. -/
def innerScope (env : Env) (names : List (Units × Binding)) : Run Env := change fun s =>
  let (ref, s) := s.addScope ⟨names, some env.scope, none, false, none⟩
  ({ env with scope := ref }, s)

/-- A new scope inside `env` for names that have been declared and not reached. -/
def unreachedScope (env : Env) (names : List Declared) : Run Env :=
  if names.isEmpty then pure env else innerScope env (names.map Declared.unreached)

/-! ## What surrounds code -/

/-- The message for a receiver that is not there yet. -/
def noReceiver : String :=
  "Must call super constructor in derived class before accessing 'this' or returning from derived constructor"

/-- The receiver. -/
def thisValue (env : Env) : Run ScriptValue := do
  match ← read fun s => s.findActivation env.scope with
  | some (_, a) =>
    match a.this with
    | some v => pure v
    | none => throwNew .referenceError noReceiver
  | none => pure (.object Intrinsic.global.ref)

/-- The object in which `super` looks up properties. -/
def superHome (env : Env) : Run Ref := do
  match ← read fun s => s.findActivation env.scope with
  | some (_, ⟨_, _, _, some home⟩) =>
    match ← prototype home with
    | some proto => pure proto
    | none => throwTypeError nothingToObject
  | _ => throwNew .syntaxError "invalid super usage"

/-! ## Places -/

/-- A place whose parts have been computed, with its position where it has one. -/
inductive Target
  | name (id : Units)
  | member (pos : Position) (base : ScriptValue) (key : ScriptValue)
  /-- A property found in `home`, but seen from the receiver. -/
  | super (pos : Position) (home : Ref) (this : ScriptValue) (key : ScriptValue)

namespace Target

/-- A base that can have properties. -/
def requireObject (base : ScriptValue) : Run Unit := do
  match base with
  | .undefined | .null => throwTypeError nothingToObject
  | _ => pure ()

def read (env : Env) : Target → Run ScriptValue
  | name id => readName env id
  | member pos base key => located (some pos) do
    requireObject base
    getValue base (← toKey key)
  | super pos home this key => located (some pos) do getWith proxyOps home (← toKey key) this

def write (env : Env) (v : ScriptValue) : Target → Run Unit
  | name id => assignName env id v
  | member _ base key => do
    requireObject base
    setValue base (← toKey key) v env.strict
  | super _ home this key => do
    let k ← toKey key
    if !(← setWith proxyOps home k v this) && env.strict then
      throwTypeError ("cannot set non-writable property: " ++ (← keyText k))

/-- The receiver of a call of the place. -/
def receiver : Target → ScriptValue
  | name _ => .undefined
  | member _ base _ => base
  | super _ _ this _ => this

def delete (env : Env) : Target → Run Bool
  | name id => do
    match ← Run.read fun s => s.findBinding id env.scope with
    | some _ => pure false
    | none => deleteWith proxyOps Intrinsic.global.ref (.ofUnits id)
  | member _ base key => do
    requireObject base
    let k ← toKey key
    let ref ← toObject base
    let ok ← deleteWith proxyOps ref k
    if !ok && env.strict then throwTypeError "Cannot delete property"
    pure ok
  | super .. => throwNew .referenceError "cannot delete a property of \x60super\x60"

end Target

/-! ## Functions -/

/-- The name of a function in traces. -/
def frameLabel (name : Units) : String := if name.isEmpty then "<anonymous>" else nameText name

/-- The properties that every function starts with. -/
def functionProperties (name : Units) (length : Nat) : List (Key × Property) :=
  [(lengthKey, .readOnly (lengthValue length)),
   (.name (Text.units "name"), .readOnly (.string name))]

/-- A function object. -/
def functionObject (proto : Ref) (data : FunctionData) (name : Units) (length : Nat) : Object :=
  ⟨some proto, true, .function data, ∅, functionProperties name length⟩

/-- A built-in function.  Constructors have no name in traces. -/
def builtinObject (op : Builtin) (name : String) (length : Nat) (constructs : Bool) : Object :=
  let label := if constructs then "" else name
  functionObject Intrinsic.functionPrototype.ref ⟨.builtin op, label, constructs⟩
    (Text.units name) length

/-- A function written in script, as an object.  One that can be constructed with has a prototype
for what it makes. -/
def makeFunctionObject (env : Env) (code : FunctionCode) (name : Units) (home : Option Ref) :
    Run Ref := do
  let info := code.info
  let constructs := info.kind = .normal
  let closure : Closure := ⟨code, env.scope, env.file, home, []⟩
  let ref ← allocate (functionObject Intrinsic.functionPrototype.ref
    ⟨.closure closure, frameLabel info.name, constructs⟩ name info.length)
  if constructs then
    let proto ← newObject
    modifyObject proto fun o => o.put (.name (Text.units "constructor")) (.hidden (.object ref))
    modifyObject ref fun o =>
      o.put (.name (Text.units "prototype")) ⟨.data (.object proto) true, false, false⟩
  if info.kind = .suspended then
    let proto ← allocate (.empty (some Intrinsic.generatorPrototype.ref) .ordinary)
    modifyObject ref fun o =>
      o.put (.name (Text.units "prototype")) ⟨.data (.object proto) true, false, false⟩
  pure ref

/-- A function expression: one that can refer to itself gets a scope of its own. -/
def functionExpression (env : Env) (code : FunctionCode) : Run ScriptValue := do
  if code.info.bindsItself then
    let inner ← innerScope env []
    let ref ← makeFunctionObject inner code code.info.name none
    update fun s => s.bind inner.scope code.info.name ⟨some (.object ref), true, true, true⟩
    pure (.object ref)
  else
    let ref ← makeFunctionObject env code code.info.name none
    pure (.object ref)

/-- Makes the functions that a block declares. -/
def instantiateFunctions (env : Env) (functions : List FunctionCode) : Run Unit :=
  forItems functions fun code => do
    let ref ← makeFunctionObject env code code.info.name none
    update fun s => s.bind env.scope code.info.name (.plain (.object ref))

/-- Enters code that declares names of its own. -/
def enterNames (env : Env) (names : List (Units × Binding)) (functions : List FunctionCode) :
    Run Env := do
  if names.isEmpty && functions.isEmpty then pure env
  else
    let inner ← innerScope env names
    instantiateFunctions inner functions
    pure inner

/-- Enters a block. -/
def enterBlock (env : Env) (names : List Declared) (body : List Stmt) : Run Env :=
  enterNames env (names.map Declared.unreached) (declaredFunctions body)

/-- Enters the cases of a selection.  Names that live in the function's frame have been reached,
because any of the cases may be entered first. -/
def enterCases (env : Env) (names : List Declared) (body : List Stmt) : Run Env :=
  let enter (d : Declared) : Units × Binding :=
    if d.shared then d.unreached else (d.name, ⟨some .undefined, d.constant, false, false⟩)
  enterNames env (names.map enter) (declaredFunctions body)

/-! ## Scripts -/

/-- Whether a function may become a property of the global object. -/
def mayDeclareFunction (extensible : Bool) : Option Property → Bool
  | none => extensible
  | some p => p.configurable || match p.slot with
    | .data _ writable => writable && p.enumerable
    | .accessor .. => false

/-- Declares the names of a script. -/
def declareGlobals (env : Env) (code : ScriptCode) : Run Unit := do
  let global := Intrinsic.global.ref
  let own := code.names
  let functions := declaredFunctions code.body
  let functionNames := functions.map (·.info.name)
  let scope ← read fun s => s.scope globalScope
  let clashes (name : Units) : Bool := (scope.names.lookup name).isSome
  if own.any (fun d => clashes d.name) || code.vars.any clashes then
    throwNew .syntaxError "invalid scope analysis: duplicate lexical declaration at line 1, col 1"
  forItems own fun entry => do
    match ← getOwn global (.ofUnits entry.name) with
    | some p =>
      if !p.configurable then
        throwNew .syntaxError "cannot redefine non-configurable global property"
    | none => pure ()
  let extensible ← isExtensibleWith proxyOps global
  forItems functionNames fun name => do
    let p ← getOwn global (.ofUnits name)
    if !mayDeclareFunction extensible p then throwTypeError "cannot declare global function"
  let vars := code.vars.filter fun name => !functionNames.contains name
  forItems vars fun name => do
    if !extensible && (← getOwn global (.ofUnits name)).isNone then
      throwTypeError "cannot declare global variable"
  forItems own fun d => update fun s => s.bind globalScope d.name d.unreached.2
  forItems functions fun f => do
    let ref ← makeFunctionObject env f f.info.name none
    let k := Key.ofUnits f.info.name
    let fresh := match ← getOwn global k with
      | none => true
      | some p => p.configurable
    let d : Descriptor :=
      if fresh then .ofProperty ⟨.data (.object ref) true, true, false⟩
      else { Descriptor.blank with value := some (.object ref) }
    define global k d
    set global k (.object ref)
  forItems vars fun name => do
    let k := Key.ofUnits name
    if (← getOwn global k).isNone then
      define global k (.ofProperty ⟨.data .undefined true, true, false⟩)

end ScriptHost.Script
