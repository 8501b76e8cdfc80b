import ScriptHost.Script.Names
import ScriptHost.Script.Operator

/-!
# Evaluation

What expressions and statements do, by recursion on the code.  A call is a request, so the recursion
never leaves the code of one function.

* expressions: `evalExpr`, `evalPlace`, `evalPattern`, `evalClass`;
* statements: `evalStmt`, `evalStmts`, which end with a `Completion`.
-/

namespace ScriptHost.Script

open Run

/-- How a statement ends. -/
inductive Completion
  /-- It ran to its end, perhaps with a value. -/
  | normal (value : Option ScriptValue)
  /-- It leaves the statement with this label, or the innermost loop. -/
  | leave (label : Option Units) (value : Option ScriptValue)
  /-- It starts the next round of a loop. -/
  | next (label : Option Units) (value : Option ScriptValue)
  /-- It leaves the function. -/
  | answer (v : ScriptValue)

namespace Completion

/-- The completion with `value` if it has none of its own. -/
def orElse (value : Option ScriptValue) : Completion → Completion
  | normal v => normal (v.or value)
  | leave label v => leave label (v.or value)
  | next label v => next label (v.or value)
  | answer v => answer v

/-- The value of a completion. -/
def value? : Completion → Option ScriptValue
  | normal v | leave _ v | next _ v => v
  | answer v => some v

/-- What a loop with these labels does behind its body: go on with a value, or end. -/
def afterRound (labels : List Units) (last : Option ScriptValue) (c : Completion) :
    Except Completion (Option ScriptValue) :=
  match c.orElse last with
  | normal v => .ok v
  | next none v => .ok v
  | next (some l) v => if labels.contains l then .ok v else .error (next (some l) v)
  | leave none v => .error (normal v)
  | leave (some l) v => .error (leave (some l) v)
  | answer v => .error (answer v)

end Completion

/-- How a pattern stores what it matches. -/
inductive Storing
  /-- Assigns to places. -/
  | assign
  /-- Gives declared names their first value. -/
  | declare (kind : DeclarationKind)

/-- Stores a value in a place. -/
def storeIn (env : Env) (mode : Storing) (target : Target) (v : ScriptValue) : Run Unit :=
  match mode, target with
  | .declare kind, .name id => declareName env kind id v
  | _, target => target.write env v

/-- The value is one of the two missing ones. -/
def isMissing : ScriptValue → Bool
  | .undefined | .null => true
  | _ => false

/-- The operator is content with its first operand. -/
def isDecided (op : LogicalOp) (v : ScriptValue) : Bool :=
  match op with
  | .both => !(truth v)
  | .either => truth v
  | .default => !(isMissing v)

/-- The value of a literal. -/
def literalValue : Literal → ScriptValue
  | .null => .null
  | .boolean b => .boolean b
  | .number x => .number x
  | .string text => .string text
  | .bigint n => .bigint n

/-- A new pattern object. -/
def regexpObject (proto : Ref) (body flags : Units) : Object :=
  (Object.empty (some proto) (.regexp body flags)).put (.name (Text.units "lastIndex"))
    ⟨.data (.number 0) true, false, false⟩

/-- The array of text pieces that a tagged template hands over. -/
def templateObject (pieces : List (Option Units × Units)) : Run ScriptValue := do
  let raw ← newArray (pieces.map fun piece => .string piece.2)
  let cooked ← newArray (pieces.map fun piece => (piece.1.map ScriptValue.string).getD .undefined)
  modifyObject cooked fun o =>
    { o.put (.name (Text.units "raw")) (.fixed (.object raw)) with extensible := false }
  pure (.object cooked)

/-- Copies the own enumerable properties of a value, but for some keys. -/
def copyProperties (target : Ref) (source : ScriptValue) (without : List Key) : Run Unit := do
  match source with
  | .undefined | .null => pure ()
  | source =>
    let ref ← toObject source
    forItems (← ownKeys ref) fun k => do
      if !without.contains k then
        match ← getOwn ref k with
        | some p => if p.enumerable then create target k (← get ref k)
        | none => pure ()

/-- The text before the name of an accessor. -/
def accessorName (kind : MethodKind) (name : Units) : Units :=
  match kind with
  | .value => name
  | .getter => Text.units "get " ++ name
  | .setter => Text.units "set " ++ name

/-- The name that a function gets from its key. -/
def keyFunctionName (k : Key) : Run Units := read fun s =>
  match k with
  | .symbol id =>
    match s.symbols.getD id none with
    | some text => 0x5B :: text ++ [0x5D]
    | none => []
  | k => k.toUnits?.getD []

/-- Defines a method, getter or setter. -/
def defineMethod (env : Env) (object : Ref) (kind : MethodKind) (k : Key) (code : FunctionCode)
    (enumerable : Bool) : Run Unit := do
  let name := accessorName kind (← keyFunctionName k)
  let ref ← makeFunctionObject env code name (some object)
  let d : Descriptor := match kind with
    | .value => .ofProperty ⟨.data (.object ref) true, enumerable, true⟩
    | .getter => { Descriptor.blank with
        getter := some (some ref), enumerable := some enumerable, configurable := some true }
    | .setter => { Descriptor.blank with
        setter := some (some ref), enumerable := some enumerable, configurable := some true }
  define object k d

/-- Names the unnamed function that an expression made by the key under which it will be stored. -/
def nameByKey (e : Expr) (k : Key) (v : ScriptValue) : Run Unit := do
  if let .object ref := v then
    if e.isUnnamed then
      let name ← keyFunctionName k
      modifyObject ref fun o => o.put (.name (Text.units "name")) (.readOnly (.string name))

/-- Gives a new object the fields of its class. -/
def addFields (env : Env) (constructor object : Ref) : Run Unit := do
  match ← kindOf constructor with
  | .function ⟨.closure c, _, _⟩ =>
    forItems c.fields fun field => do
      let inner : Env := ⟨field.scope, true, env.file⟩
      let f ← makeFunctionObject inner field.code field.code.info.name (some object)
      create object field.key (← call f (.object object) [])
  | _ => pure ()

/-- Calls the superclass's constructor for the object under construction. -/
def callSuper (env : Env) (args : List ScriptValue) : Run ScriptValue := do
  match ← read fun s => s.findActivation env.scope with
  | some (scope, a) =>
    let parent ← prototype a.callee
    let isConstructor ← read fun s => match parent with
      | some p => s.heap.isConstructor p
      | none => false
    match parent, a.target with
    | some parent, some target =>
      if !isConstructor then throwTypeError "super constructor object must be constructor"
      let v ← construct parent args target
      match ← read fun s => (s.scope scope).activation with
      | some ⟨some _, _, _, _⟩ =>
        throwNew .referenceError "cannot reinitialize \x60this\x60 binding"
      | _ =>
        update fun s => { s with scopes := s.scopes.modify scope fun x =>
          { x with activation := some { a with this := some v } } }
        match v with
        | .object object => addFields env a.callee object
        | _ => pure ()
        pure v
    | _, _ => throwTypeError "super constructor object must be constructor"
  | none => throwNew .syntaxError "invalid super usage"

/-- The keys that a loop over an object visits, its prototypes included. -/
def visitedKeys (ref : Ref) : Run (List Units) := do
  let round (current : Ref) (seen : List Key) (found : List Units) :
      Run (List Key × List Units) := do
    foldItems (fun (done : List Key × List Units) k => do
      match k with
      | .symbol _ => pure done
      | k =>
        if done.1.contains k then pure done
        else
          match ← getOwn current k with
          | some p =>
            pure (k :: done.1, if p.enumerable then (k.toUnits?.getD []) :: done.2 else done.2)
          | none => pure done) (← ownKeys current) (seen, found)
  let walk (_ : Nat) (state : Ref × List Key × List Units) :
      Run (Except (List Units) (Ref × List Key × List Units)) := do
    let (current, seen, found) := state
    let (seen, found) ← round current seen found
    match ← prototype current with
    | some p => pure (.ok (p, seen, found))
    | none => pure (.error found.reverse)
  match ← scan walk roundLimit 0 (ref, [], []) with
  | .error found => pure found
  | .ok _ => pure []

/-- The key is still there, own or inherited. -/
def stillThere (ref : Ref) (key : Units) : Run Bool := has ref (.ofUnits key)

/-- How the head of a loop stores its values. -/
def headStoring : Option DeclarationKind → Storing
  | some kind => .declare kind
  | none => .assign

/-- A copy of the innermost scope, for the next round of a loop. -/
def copyScope (env : Env) : Run Env := change fun s =>
  let (ref, s) := s.addScope (s.scope env.scope)
  ({ env with scope := ref }, s)

/-- The function is the one that evaluates source. -/
def evaluatesSource (v : ScriptValue) : Run Bool := do
  match v with
  | .object ref =>
    match ← kindOf ref with
    | .function ⟨.builtin (.globals .evaluate), _, _⟩ => pure true
    | _ => pure false
  | _ => pure false

/-- Calls what a place holds.  Source that is evaluated under the name `eval` runs
inside the code around. -/
def callPlace (env : Env) (target : Target) (f : ScriptValue) (args : List ScriptValue) :
    Run ScriptValue := do
  match target, f with
  | .name id, .object ref =>
    if id = Text.units "eval" && (← evaluatesSource f) then
      request ⟨ref, .undefined, args, none, some ⟨env.scope, env.strict⟩⟩
    else callValue f .undefined args
  | _, _ => callValue f target.receiver args

/-- Throws if a value cannot be matched by a pattern for its parts. -/
def requireParts (v : ScriptValue) : Run Unit := do
  match v with
  | .undefined => throwTypeError "Cannot destructure 'undefined' value"
  | .null => throwTypeError "Cannot destructure 'null' value"
  | _ => pure ()

/-- The completion of a protected block together with that of its finalizer. -/
def afterFinalizer (result : Except Signal Completion) (c : Completion) : Run Completion :=
  match c with
  | .normal _ => resume result
  | c => pure (c.orElse (some .undefined))

/-- The iterator of an array pattern with what it has left; nothing once it is used up. -/
abbrev Remaining := Option Iterator

/-- The next value of an iterator, missing once it is used up. -/
def takeNext (it : Iterator) (left : Remaining) : Run (ScriptValue × Remaining) := do
  match left with
  | none => pure (.undefined, none)
  | some _ =>
    match ← it.step with
    | some v => pure (v, some it)
    | none => pure (.undefined, none)

/-- All that an iterator has left. -/
def takeAll (it : Iterator) (left : Remaining) : Run (List ScriptValue) := do
  match left with
  | none => pure []
  | some _ =>
    match ← scan (fun _ done => do
        match ← it.step with
        | some v => pure (.ok (v :: done))
        | none => pure (.error (done : List ScriptValue))) roundLimit 0 [] with
    | .error done | .ok done => pure done.reverse

/-- The object without a class above it, or the superclass with its prototype. -/
def heritageOf (v : Option ScriptValue) : Run (Option Ref × Ref) := do
  match v with
  | none => pure (some Intrinsic.objectPrototype.ref, Intrinsic.functionPrototype.ref)
  | some .null => pure (none, Intrinsic.functionPrototype.ref)
  | some (.object parent) =>
    if ← read fun s => s.heap.isConstructor parent then
      match ← getNamed parent "prototype" with
      | .object proto => pure (some proto, parent)
      | .null => pure (none, parent)
      | _ => throwTypeError "superclass prototype must be an object or null"
    else throwTypeError "superclass must be a constructor"
  | some _ => throwTypeError "superclass must be a constructor"

/-- The constructor of a class and the prototype of its instances. -/
def makeClass (env : Env) (name : Units) (heritage : Option ScriptValue) (code : FunctionCode) :
    Run (Ref × Ref) := do
  let (protoParent, parent) ← heritageOf heritage
  let proto ← allocate (.empty protoParent .ordinary)
  let closure : Closure := ⟨code, env.scope, env.file, some proto, []⟩
  let object :=
    functionObject parent ⟨.closure closure, frameLabel name, true⟩ name code.info.length
  let ref ← allocate (object.put (.name (Text.units "prototype")) (.fixed (.object proto)))
  modifyObject proto fun o => o.put (.name (Text.units "constructor")) (.hidden (.object ref))
  pure (ref, proto)

/-- Code that runs once a class has been made: a block, or what computes the value of a property. -/
structure LateMember where
  key : Option Key
  code : FunctionCode

/-- Adds a field to those that a constructor gives to new objects. -/
def addField (constructor : Ref) (field : ClassField) : Run Unit :=
  modifyObject constructor fun o =>
    match o.kind with
    | .function ⟨.closure c, label, constructs⟩ =>
      { o with kind := .function ⟨.closure { c with fields := c.fields ++ [field] },
          label, constructs⟩ }
    | _ => o

mutual

/-- The value of an expression. -/
def evalExpr : Expr → Env → Run ScriptValue
  | .literal v, _ => pure (literalValue v)
  | .regexp body flags, _ => do
    let ref ← allocate (regexpObject Intrinsic.regexpPrototype.ref body flags)
    pure (.object ref)
  | .template head rest, env => do
    pure (.string (head ++ (← evalTemplate rest env)))
  | .this, env => thisValue env
  | .newTarget, env => do
    match ← read fun s => s.findActivation env.scope with
    | some (_, ⟨_, _, some target, _⟩) => pure (.object target)
    | _ => pure .undefined
  | .read place, env => do
    let target ← evalPlace place env
    target.read env
  | .array items _, env => do
    let items ← evalItems items env
    let (indexed, count) := items.foldl (fun (done : Std.TreeMap Nat Property × Nat) item =>
      match item with
      | some v => (done.1.insert done.2 (.plain v), done.2 + 1)
      | none => (done.1, done.2 + 1)) (∅, 0)
    let ref ← allocate ⟨some Intrinsic.arrayPrototype.ref, true, .array count true, indexed, []⟩
    pure (.object ref)
  | .object members, env => do
    let ref ← newObject
    evalMembers members ref env
    pure (.object ref)
  | .function code, env => functionExpression env code
  | .classOf code, env => evalClass code env
  | .call pos place optional args, env => located (some pos) do
    let target ← evalPlace place env
    let f ← target.read env
    if optional && isMissing f then Run.leave .chainEnd
    let args ← evalItems args env
    callPlace env target f (args.filterMap id)
  | .apply pos callee optional args, env => located (some pos) do
    let f ← evalExpr callee env
    if optional && isMissing f then Run.leave .chainEnd
    let args ← evalItems args env
    callValue f .undefined (args.filterMap id)
  | .superCall pos args, env => located pos do
    let args ← evalItems args env
    callSuper env (args.filterMap id)
  | .construct pos callee args, env => located (some pos) do
    let f ← evalExpr callee env
    let args ← evalItems args env
    match f with
    | .object ref =>
      if ← read fun s => s.heap.isConstructor ref then construct ref (args.filterMap id) ref
      else throwTypeError "not a constructor"
    | _ => throwTypeError "not a constructor"
  | .tagged pos (.read place) pieces values, env => located (some pos) do
    let target ← evalPlace place env
    let f ← target.read env
    let strings ← templateObject pieces
    let values ← evalList values env
    callValue f target.receiver (strings :: values)
  | .tagged pos tag pieces values, env => located (some pos) do
    let f ← evalExpr tag env
    let strings ← templateObject pieces
    let values ← evalList values env
    callValue f .undefined (strings :: values)
  | .unary op operand, env => do
    let v ← evalExpr operand env
    applyUnary op v
  | .typeOfName name, env => do
    match ← readName? env name with
    | some v => do pure (.string (Text.units (← typeText v)))
    | none => pure (.string (Text.units "undefined"))
  | .delete place, env => do
    let target ← evalPlace place env
    ScriptValue.boolean <$> target.delete env
  | .update delta answersNew place, env => do
    let target ← evalPlace place env
    let old ← toNumeric (← target.read env)
    let new := step old delta
    target.write env new.toValue
    pure (if answersNew then new.toValue else old.toValue)
  | .binary op left right, env => do
    let v ← evalExpr left env
    let w ← evalExpr right env
    applyBinary op v w
  | .logical op left right, env => do
    let v ← evalExpr left env
    if isDecided op v then pure v else evalExpr right env
  | .conditional test yes no, env => do
    let v ← evalExpr test env
    if truth v then evalExpr yes env else evalExpr no env
  | .assign pos place e, env => located (if place.isName then none else some pos) do
    let target ← evalPlace place env
    let v ← evalExpr e env
    target.write env v
    pure v
  | .assignPattern pattern e, env => do
    let v ← evalExpr e env
    evalPattern pattern .assign v env
    pure v
  | .compound op place e, env => do
    let target ← evalPlace place env
    let old ← target.read env
    let v ← evalExpr e env
    let new ← applyBinary op old v
    target.write env new
    pure new
  | .compoundLogical op place e, env => do
    let target ← evalPlace place env
    let old ← target.read env
    if isDecided op old then pure old
    else
      let v ← evalExpr e env
      target.write env v
      pure v
  | .sequence first second, env => do
    let _ ← evalExpr first env
    evalExpr second env
  | .group e, env => evalExpr e env
  | .chain whole, env => do
    match ← attemptHere (evalExpr whole env) with
    | .ok v => pure v
    | .error .chainEnd => pure .undefined
    | .error e => Run.leave e
  | .link base, env => do
    let v ← evalExpr base env
    if isMissing v then Run.leave .chainEnd else pure v

/-- The values of a list of expressions. -/
def evalList : List Expr → Env → Run (List ScriptValue)
  | [], _ => pure []
  | e :: rest, env => do
    let v ← evalExpr e env
    let others ← evalList rest env
    pure (v :: others)

/-- The value of an expression that may be missing. -/
def evalOption : Option Expr → Env → Run (Option ScriptValue)
  | none, _ => pure none
  | some e, env => some <$> evalExpr e env

/-- The text of a template behind its first piece. -/
def evalTemplate : List (Expr × Units) → Env → Run Units
  | [], _ => pure []
  | (e, piece) :: rest, env => do
    let text ← toText (← evalExpr e env)
    let others ← evalTemplate rest env
    pure (text ++ piece ++ others)

/-- A place with its parts computed. -/
def evalPlace : Place → Env → Run Target
  | .name id, _ => pure (.name id)
  | .property pos base field, env => do
    let v ← evalExpr base env
    pure (.member pos v (.string field))
  | .element pos base key, env => do
    let v ← evalExpr base env
    let k ← evalExpr key env
    pure (.member pos v k)
  | .superProperty pos field, env => do
    let this ← thisValue env
    let home ← superHome env
    pure (.super pos home this (.string field))
  | .superElement pos key, env => do
    let this ← thisValue env
    let k ← evalExpr key env
    let home ← superHome env
    pure (.super pos home this k)

/-- The values of items; a hole has none. -/
def evalItems : List Item → Env → Run (List (Option ScriptValue))
  | [], _ => pure []
  | .hole :: rest, env => do
    let others ← evalItems rest env
    pure (none :: others)
  | .value e :: rest, env => do
    let v ← evalExpr e env
    let others ← evalItems rest env
    pure (some v :: others)
  | .spread e :: rest, env => do
    let v ← evalExpr e env
    let spread ← iterableItems v
    let others ← evalItems rest env
    pure (spread.map some ++ others)

/-- The key of a member. -/
def evalName : MemberName → Env → Run Key
  | .fixed key, _ => pure (.ofUnits key)
  | .computed key, env => do toKey (← evalExpr key env)

/-- Gives the members of a literal to an object. -/
def evalMembers : List Member → Ref → Env → Run Unit
  | [], _, _ => pure ()
  | .value name e :: rest, ref, env => do
    let k ← evalName name env
    let v ← evalExpr e env
    nameByKey e k v
    create ref k v
    evalMembers rest ref env
  | .method kind name code :: rest, ref, env => do
    let k ← evalName name env
    defineMethod env ref kind k code true
    evalMembers rest ref env
  | .spread e :: rest, ref, env => do
    let v ← evalExpr e env
    copyProperties ref v []
    evalMembers rest ref env
  | .prototype e :: rest, ref, env => do
    match ← evalExpr e env with
    | .object proto => modifyObject ref fun o => { o with proto := some proto }
    | .null => modifyObject ref fun o => { o with proto := none }
    | _ => pure ()
    evalMembers rest ref env
  | .cover _ _ :: rest, ref, env => evalMembers rest ref env

/-- A class. -/
def evalClass : ClassCode → Env → Run ScriptValue
  | .mk name own heritage constructor members, env => do
    let inner ← unreachedScope env own.toList
    let inner := { inner with strict := true }
    let parent ← evalOption heritage inner
    let (ref, proto) ← makeClass inner name parent constructor
    let late ← evalClassMembers members name ref proto inner []
    if let some d := own then
      update fun s => s.bind inner.scope d.name (.constantly (.object ref))
    forItems late.reverse fun one => do
      let f ← makeFunctionObject inner one.code name (some ref)
      let v ← call f (.object ref) []
      match one.key with
      | some k => create ref k v
      | none => pure ()
    pure (.object ref)

/-- Gives the members of a class to its constructor and its prototype.  The answer holds what has to
run once the class is there, the last one first. -/
def evalClassMembers : List ClassMember → (className : Units) → (constructor proto : Ref) → Env →
    List LateMember → Run (List LateMember)
  | [], _, _, _, _, late => pure late
  | .method isStatic kind name code :: rest, className, ref, proto, env, late => do
    let k ← evalName name env
    defineMethod env (if isStatic then ref else proto) kind k code false
    evalClassMembers rest className ref proto env late
  | .field isStatic name code :: rest, className, ref, proto, env, late => do
    let k ← evalName name env
    let code := code.named className
    if isStatic then evalClassMembers rest className ref proto env (⟨some k, code⟩ :: late)
    else do
      addField ref ⟨k, code, env.scope⟩
      evalClassMembers rest className ref proto env late
  | .block code :: rest, className, ref, proto, env, late =>
    evalClassMembers rest className ref proto env (⟨none, code.named className⟩ :: late)

/-- Stores a value by a pattern. -/
def evalPattern : Pattern → Storing → ScriptValue → Env → Run Unit
  | .place place, mode, v, env => do
    let target ← evalPlace place env
    storeIn env mode target v
  | .array items, mode, v, env => do
    requireParts v
    let it ← iteratorOf v
    match ← (evalSlots items mode it (some it) env).attempt with
    | .ok none => pure ()
    | .ok (some _) => it.close false
    | .error e => Run.leave e
  | .object fields none, mode, v, env => do
    requireParts v
    let _ ← evalFields fields mode v env
    pure ()
  | .object fields (some rest), mode, v, env => do
    requireParts v
    let used ← evalFields fields mode v env
    let ref ← newObject
    copyProperties ref v used
    evalPattern rest mode (.object ref) env
  | .default pattern e, mode, v, env => do
    let v ← if v matches .undefined then evalExpr e env else pure v
    evalPattern pattern mode v env

/-- Stores the values of an iterator by the elements of an array pattern. -/
def evalSlots : List Slot → Storing → Iterator → Remaining → Env → Run Remaining
  | [], _, _, left, _ => pure left
  | .hole :: rest, mode, it, left, env => do
    let (_, left) ← takeNext it left
    evalSlots rest mode it left env
  | .item pattern :: rest, mode, it, left, env => do
    let (v, left) ← takeNext it left
    evalPattern pattern mode v env
    evalSlots rest mode it left env
  | .rest pattern :: _, mode, it, left, env => do
    let items ← takeAll it left
    let ref ← newArray items
    evalPattern pattern mode (.object ref) env
    pure none

/-- Stores the properties of a value by the members of an object pattern, and answers with their
keys. -/
def evalFields : List Field → Storing → ScriptValue → Env → Run (List Key)
  | [], _, _, _ => pure []
  | .mk name pattern :: rest, mode, v, env => do
    let k ← evalName name env
    let item ← getValue v k
    evalPattern pattern mode item env
    let others ← evalFields rest mode v env
    pure (k :: others)

/-- Gives declared names their values. -/
def evalBindings : DeclarationKind → List (Pattern × Option Expr) → Env → Run Unit
  | _, [], _ => pure ()
  | kind, (pattern, none) :: rest, env => do
    if kind ≠ .var || !pattern.isName then evalPattern pattern (.declare kind) .undefined env
    evalBindings kind rest env
  | kind, (pattern, some e) :: rest, env => do
    let v ← evalExpr e env
    evalPattern pattern (.declare kind) v env
    evalBindings kind rest env

/-- Runs a statement; `labels` are its own. -/
def evalStmt : Stmt → Env → (labels : List Units) → Run Completion
  | .empty, _, _ => pure (.normal none)
  | .expression e, env, _ => do
    let v ← evalExpr e env
    pure (.normal (some v))
  | .declare kind bindings, env, _ => do
    evalBindings kind bindings env
    pure (.normal none)
  | .function _, _, _ => pure (.normal none)
  | .classOf name code, env, _ => do
    let v ← evalClass code env
    declareName env .mutable name v
    pure (.normal none)
  | .block (.mk names body), env, _ => do
    let inner ← enterBlock env names body
    evalStmts body inner none
  | .branch test yes no, env, _ => do
    let v ← evalExpr test env
    let c ← if truth v then evalStmt yes env [] else evalOptionStmt no env
    pure (c.orElse (some .undefined))
  | .whileLoop test body, env, labels => do
    let round (_ : Nat) (last : Option ScriptValue) :
        Run (Except Completion (Option ScriptValue)) := do
      let v ← evalExpr test env
      if truth v then
        let c ← evalStmt body env []
        pure (c.afterRound labels last)
      else pure (.error (.normal last))
    match ← scan round roundLimit 0 (some .undefined) with
    | .error c => pure c
    | .ok last => pure (.normal last)
  | .doWhile body test, env, labels => do
    let round (_ : Nat) (last : Option ScriptValue) :
        Run (Except Completion (Option ScriptValue)) := do
      let c ← evalStmt body env []
      match c.afterRound labels last with
      | .error c => pure (.error c)
      | .ok last =>
        let v ← evalExpr test env
        pure (if truth v then .ok last else .error (.normal last))
    match ← scan round roundLimit 0 (some .undefined) with
    | .error c => pure c
    | .ok last => pure (.normal last)
  | .forLoop names first test next body, env, labels => do
    let outer ← unreachedScope env names
    let _ ← evalOptionStmt first outer
    let fresh := names.any fun d => !d.constant
    let start ← if fresh then copyScope outer else pure outer
    let round (_ : Nat) (state : Env × Option ScriptValue) :
        Run (Except Completion (Env × Option ScriptValue)) := do
      let (inner, last) := state
      let v ← evalOption test inner
      if truth (v.getD (.boolean true)) then
        let c ← evalStmt body inner []
        match c.afterRound labels last with
        | .error c => pure (.error c)
        | .ok last =>
          let inner ← if fresh then copyScope inner else pure inner
          let _ ← evalOption next inner
          pure (.ok (inner, last))
      else pure (.error (.normal last))
    match ← scan round roundLimit 0 (start, some .undefined) with
    | .error c => pure c
    | .ok (_, last) => pure (.normal last)
  | .forIn kind names pattern e body, env, labels => do
    let head ← unreachedScope env names
    let v ← evalExpr e head
    match v with
    | .undefined | .null => pure (.normal (some .undefined))
    | v =>
      let ref ← toObject v
      let keys ← visitedKeys ref
      let round (state : Except Completion (Option ScriptValue)) (key : Units) :
          Run (Except Completion (Option ScriptValue)) := do
        match state with
        | .error c => pure (.error c)
        | .ok last =>
          if ← stillThere ref key then
            let inner ← unreachedScope env names
            evalPattern pattern (headStoring kind) (.string key) inner
            let c ← evalStmt body inner []
            pure (c.afterRound labels last)
          else pure (.ok last)
      match ← foldItems round keys (.ok (some .undefined)) with
      | .error c => pure c
      | .ok last => pure (.normal last)
  | .forOf kind names pattern e body, env, labels => do
    let head ← unreachedScope env names
    let v ← evalExpr e head
    let round (item : ScriptValue) (last : Option ScriptValue) :
        Run (Except Completion (Option ScriptValue)) := do
      let inner ← unreachedScope env names
      evalPattern pattern (headStoring kind) item inner
      let c ← evalStmt body inner []
      pure (c.afterRound labels last)
    match ← iterate v (some .undefined) round with
    | .error c => pure c
    | .ok last => pure (.normal last)
  | .answer e, env, _ => do
    let v ← evalOption e env
    pure (.answer (v.getD .undefined))
  | .leave label, _, _ => pure (.leave label none)
  | .next label, _, _ => pure (.next label none)
  | .raise pos e, env, _ => located (some pos) do
    let v ← evalExpr e env
    throwValue v
  | .guarded (.mk names body) handler finalizer, env, _ => do
    let inner ← enterBlock env names body
    let result ← attemptHere (evalStmts body inner none)
    let result ← match result with
      | .error (.thrown v frames) =>
        attemptHere (evalHandler handler (.thrown v frames) v env)
      | result => pure result
    match result with
    | .error (.limit message frames) => Run.leave (.limit message frames)
    | .error e => evalFinalizer finalizer (.error e) env
    | .ok c => evalFinalizer finalizer (.ok (c.orElse (some .undefined))) env
  | .select e names cases, env, _ => do
    let v ← evalExpr e env
    let body := cases.flatMap fun c => match c with
      | .mk _ body => body
    let inner ← enterCases env names body
    let found ← findCase cases v 0 inner
    let start := found.or (cases.findIdx? fun c => c matches .mk none _)
    match start with
    | none => pure (.normal (some .undefined))
    | some start =>
      match ← evalCases cases start inner none with
      | .leave none v => pure (.normal (v.or (some .undefined)))
      | c => pure (c.orElse (some .undefined))
  | .labelled label body, env, labels => do
    match ← evalStmt body env (label :: labels) with
    | .leave (some l) v => pure (if l = label then .normal v else .leave (some l) v)
    | c => pure c

/-- Runs a statement that may be missing. -/
def evalOptionStmt : Option Stmt → Env → Run Completion
  | none, _ => pure (.normal none)
  | some stmt, env => evalStmt stmt env []

/-- Runs statements in order, as long as they run to their ends. -/
def evalStmts : List Stmt → Env → (last : Option ScriptValue) → Run Completion
  | [], _, last => pure (.normal last)
  | stmt :: rest, env, last => do
    match ← evalStmt stmt env [] with
    | .normal v => evalStmts rest env (v.or last)
    | c => pure (c.orElse last)

/-- Runs the handler of a protected block for a thrown value. -/
def evalHandler : Option Handler → Signal → ScriptValue → Env → Run Completion
  | none, e, _, _ => Run.leave e
  | some (.mk none _ (.mk own body)), _, _, env => do
    let inner ← enterBlock env own body
    evalStmts body inner none
  | some (.mk (some pattern) names (.mk own body)), _, v, env => do
    let head ← unreachedScope env names
    evalPattern pattern (.declare .mutable) v head
    let inner ← enterBlock head own body
    evalStmts body inner none

/-- Runs the finalizer of a protected block that has ended. -/
def evalFinalizer : Option Block → Except Signal Completion → Env → Run Completion
  | none, result, _ => resume result
  | some (.mk names body), result, env => do
    let inner ← enterBlock env names body
    let c ← evalStmts body inner none
    afterFinalizer result c

/-- The position of the first case whose test equals a value. -/
def findCase : List Case → ScriptValue → (next : Nat) → Env → Run (Option Nat)
  | [], _, _, _ => pure none
  | .mk none _ :: rest, v, next, env => findCase rest v (next + 1) env
  | .mk (some test) _ :: rest, v, next, env => do
    let w ← evalExpr test env
    if strictlyEqual v w then pure (some next) else findCase rest v (next + 1) env

/-- Runs the statements of the cases from a position on. -/
def evalCases : List Case → (skip : Nat) → Env → (last : Option ScriptValue) → Run Completion
  | [], _, _, last => pure (.normal last)
  | .mk _ _ :: rest, skip + 1, env, last => evalCases rest skip env last
  | .mk _ body :: rest, 0, env, last => do
    match ← evalStmts body env last with
    | .normal v => evalCases rest 0 env v
    | c => pure c

end

end ScriptHost.Script
