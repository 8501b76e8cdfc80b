import ScriptHost.Script.Evaluate

/-!
# Calling functions written in script

`callClosure` binds receiver and parameters, runs the body, and answers with what it returns; a
construction answers with the new object unless the body returns another one.  `runScriptCode` runs
a script, and `evaluateText` source that a script evaluates.
-/

namespace ScriptHost.Script

open Run

/-- The elements of the arguments that follow parameters: outside strict code, and if every
parameter is just a name.  Of parameters with one name the last counts. -/
def followedNames (code : FunctionCode) (count : Nat) : List (Nat × Units) :=
  let names := code.params.map fun p => match p with
    | .place (.name id) => some id
    | _ => none
  if code.info.strict || code.rest.isSome || names.any Option.isNone then []
  else
    let numbered := (names.filterMap id).mapIdx fun i name => (i, name)
    let last := numbered.filter fun entry => !numbered.any fun other =>
      entry.1 < other.1 && other.2 = entry.2
    last.filter fun entry => entry.1 < count

/-- The object that holds the arguments of a call. -/
def argumentsObject (args : List ScriptValue) (strict : Bool) (callee : Ref) (scope : ScopeRef)
    (followed : List (Nat × Units)) : Object :=
  let (indexed, count) := args.foldl (fun (done : Std.TreeMap Nat Property × Nat) v =>
    (done.1.insert done.2 (.plain v), done.2 + 1)) (∅, 0)
  let thrower := some Intrinsic.throwingAccessor.ref
  let calleeProperty : Property :=
    if strict then ⟨.accessor thrower thrower, false, false⟩ else .hidden (.object callee)
  ⟨some Intrinsic.objectPrototype.ref, true, .arguments scope followed, indexed,
    [(lengthKey, .hidden (lengthValue count)),
      (.name (Text.units "callee"), calleeProperty)]⟩

/-- The receiver that a function sees: outside strict code always an object. -/
def receiverFor (strict : Bool) (this : ScriptValue) : Run ScriptValue := do
  if strict then pure this
  else
    match this with
    | .undefined | .null => pure (.object Intrinsic.global.ref)
    | .object ref => pure (.object ref)
    | v => ScriptValue.object <$> toObject v

/-- Gives the parameters their values. -/
def bindParameters (env : Env) : List Pattern → List ScriptValue → Run (List ScriptValue)
  | [], args => pure args
  | p :: rest, args => do
    let v := args.headD .undefined
    match p with
    | .place (.name id) => update fun s => s.bind env.scope id (.plain v)
    | p => evalPattern p (.declare .mutable) v env
    bindParameters env rest (args.drop 1)

/-- Binds the parameters of a function and the list of its arguments. -/
def enterParameters (env : Env) (code : FunctionCode) (self : Ref) (args : List ScriptValue) :
    Run Unit := do
  let info := code.info
  if info.usesArguments then
    let followed := followedNames code args.length
    let ref ← allocate (argumentsObject args info.strict self env.scope followed)
    if !followed.isEmpty then
      update fun s => { s with scopes := s.scopes.modify env.scope fun scope =>
        { scope with arguments := some ref } }
    update fun s => s.bind env.scope Grammar.argumentsName (.plain (.object ref))
  forItems (info.computed.getD []) fun d => update fun s => s.bind env.scope d.name d.unreached.2
  let left ← bindParameters env code.params args
  match code.rest with
  | some p =>
    let ref ← newArray left
    evalPattern p (.declare .mutable) (.object ref) env
  | none => pure ()

/-- Binds what the body of a function declares.  Where parameters have been computed, the body has a
scope of its own, and a variable that shares its name with a parameter cannot be reached. -/
def enterBody (env : Env) (code : FunctionCode) : Run Env := do
  let info := code.info
  let functions := declaredFunctions code.body
  let env ← match info.computed with
    | none => do
      forItems info.vars fun d => update fun s =>
        if ((s.scope env.scope).names.lookup d.name).isSome then s
        else s.bind env.scope d.name (.plain .undefined)
      pure env
    | some params => do
      let inner ← change fun s =>
        let (ref, s) := s.addScope ⟨[], some env.scope, none, true, none⟩
        ({ env with scope := ref }, s)
      forItems info.vars fun d => do
        let isParameter :=
          params.any (·.name = d.name) && !functions.any fun f => f.info.name = d.name
        if isParameter then
          update fun s => s.bind inner.scope d.name d.unreached.2
          let _ ← readName inner d.name
        else update fun s => s.bind inner.scope d.name (.plain .undefined)
      pure inner
  forItems info.names fun d => update fun s => s.bind env.scope d.name d.unreached.2
  instantiateFunctions env functions
  pure env

/-- The answer of a construction whose body gave `v`. -/
def constructedValue (derived : Bool) (scope : ScopeRef) (v : ScriptValue) : Run ScriptValue := do
  match v with
  | .object _ => pure v
  | v =>
    if derived && v ≠ .undefined then
      throwTypeError "derived constructor can only return an Object or undefined"
    else
      match ← read fun s => ((s.scope scope).activation.bind (·.this)) with
      | some this => pure this
      | none => throwNew .referenceError noReceiver

/-- Runs the body of a function in a scope of its own. -/
def runBody (c : Closure) (self : Ref) (this : Option ScriptValue) (args : List ScriptValue)
    (target : Option Ref) : Run (ScriptValue × ScopeRef) := do
  let info := c.code.info
  let activation : Option Activation :=
    if info.kind = .arrow then none else some ⟨this, self, target, c.home⟩
  let scope ← change fun s => s.addScope ⟨[], some c.scope, activation, true, none⟩
  let env : Env := ⟨scope, info.strict, c.file⟩
  enterParameters env c.code self args
  let inner ← enterBody env c.code
  match ← evalStmts c.code.body inner none with
  | .answer v => pure (v, scope)
  | _ => pure (.undefined, scope)

/-- Calls a function written in script, or constructs with it. -/
def callClosure (c : Closure) (self : Ref) (r : Request) : Run ScriptValue := do
  let info := c.code.info
  match info.kind, r.target with
  | .suspended, _ => do
    let proto ← prototypeFor (some self) .generatorPrototype
    ScriptValue.object <$> allocate (.empty (some proto) .ordinary)
  | .baseConstructor, none | .derivedConstructor, none =>
    throwTypeError "class constructor cannot be invoked without 'new'"
  | .derivedConstructor, some target => do
    let (v, scope) ← runBody c self none r.args (some target)
    constructedValue true scope v
  | _, some target => do
    let proto ← prototypeFor (some target) .objectPrototype
    let object ← allocate (.empty (some proto) .ordinary)
    addFields ⟨c.scope, true, c.file⟩ self object
    let (v, scope) ← runBody c self (some (.object object)) r.args (some target)
    constructedValue false scope v
  | .arrow, none => do
    let (v, _) ← runBody c self none r.args none
    pure v
  | _, none => do
    let this ← receiverFor info.strict r.this
    let (v, _) ← runBody c self (some this) r.args none
    pure v

/-! ## Scripts and evaluated source -/

/-- Runs a script that has been read; the answer is its completion value. -/
def runScriptCode (code : ScriptCode) (file : String) : Run ScriptValue := do
  let env : Env := ⟨globalScope, code.strict, file⟩
  declareGlobals env code
  let c ← evalStmts code.body env none
  pure (c.value?.getD .undefined)

/-- Declares the variables and functions of evaluated source in the scope that takes them. -/
def declareEvaluated (env : Env) (holder : ScopeRef) (code : ScriptCode) : Run Unit := do
  let global := Intrinsic.global.ref
  let functions := declaredFunctions code.body
  forItems code.vars fun name => do
    let k := Key.ofUnits name
    if holder ≠ globalScope then
      update fun s => if ((s.scope holder).names.lookup name).isSome then s
        else s.bind holder name (.plain .undefined)
    else if (← getOwn global k).isNone then create global k .undefined
  forItems functions fun f => do
    let ref ← makeFunctionObject env f f.info.name none
    if holder = globalScope then create global (.ofUnits f.info.name) (.object ref)
    else update fun s => s.bind holder f.info.name (.plain (.object ref))

/-- A name of the block scopes from `scope` outwards to the one that takes
variables, if that is among `names`. -/
def blockedName? (s : State) (names : List Units) (scope : ScopeRef) : Option Units :=
  let rec go : (fuel : Nat) → ScopeRef → Option Units
    | 0, _ => none
    | fuel + 1, ref =>
      let here := s.scope ref
      if here.holdsVars && ref != globalScope then none
      else
        (names.find? fun name => (here.names.lookup name).isSome).or
          (here.parent.bind fun parent => go fuel parent)
  go s.scopes.size scope

/-- Runs evaluated source that has been read. -/
def runEvaluated (code : ScriptCode) (outer : ScopeRef) (file : String) : Run ScriptValue := do
  if !code.strict then
    match ← read fun s => blockedName? s code.vars outer with
    | some name =>
      throwNew .syntaxError ("variable declaration " ++ nameText name ++
        " in eval function already exists as a lexical variable")
    | none => pure ()
  let scope ← change fun s => s.addScope
    ⟨code.names.map Declared.unreached, some outer, none, code.strict, none⟩
  let holder ← read fun s => s.varScope scope
  let env : Env := ⟨scope, code.strict, file⟩
  declareEvaluated env holder code
  let c ← evalStmts code.body env none
  pure (c.value?.getD .undefined)

/-- Evaluates source, in the code around if that is given. -/
def evaluateText (text : Units) (inside : Option Surrounding) : Run ScriptValue := do
  let source := Text.pairUnitsLossyChars text
  let around ← match inside with
    | some i => do
      let activation ← read fun s => s.findActivation i.scope
      let hasHome := match activation with
        | some (_, ⟨_, _, _, some _⟩) => true
        | _ => false
      pure (some (Enclosing.mk i.strict activation.isSome hasHome))
    | none => pure none
  let code := match around with
    | some e => readEvaluated e source
    | none => readIndirect source
  match code with
  | .error message => throwNew .syntaxError message
  | .ok code =>
    let file := "eval at "
    update fun s => { s with frames := ⟨"<eval>", some file, none, 0⟩ :: s.frames }
    let v ← runEvaluated code ((inside.map (·.scope)).getD globalScope) file
    update fun s => { s with frames := s.frames.drop 1 }
    pure v

end ScriptHost.Script
