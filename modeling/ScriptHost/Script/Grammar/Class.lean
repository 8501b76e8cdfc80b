import ScriptHost.Script.Grammar.Function

/-!
# Classes

All of a class is strict code.  Its name has a scope of its own, which the members see.

* `classElement`: a member, or the constructor;
* `classBehindWord`: a class behind its word.
-/

namespace ScriptHost.Script.Grammar

open Parse

variable (g : Grammar)

/-- The token ends a member name, so that a word before it is a name itself. -/
def endsName (kind : TokenKind) : Bool :=
  kind = .mark "(" || kind = .mark "\x7d" || kind = .mark "=" || kind = .mark ";"

/-- The token may start a member name. -/
def startsMember : TokenKind → Bool
  | .word _ | .text .. | .number _ | .bigint _ => true
  | kind => kind = .mark "["

/-- The word before the name of a member, if it is not the name itself. -/
def wordBeforeName : Parse (Option String) := do
  let t ← peek
  match t.kind with
  | .word w =>
    if endsName (← peekSecond) then pure none
    else if w = "get" || w = "set" || w = "async" then pure (some w)
    else pure none
  | .mark "*" => pure (some "*")
  | _ => pure none

/-- Fails if a constructor is ahead, which may not be `what`. -/
def refuseConstructor (isStatic : Bool) (what : String) : Parse Unit := do
  if !isStatic && (← atWord "constructor") then
    failAt ("class constructor may not be " ++ what) (← peek).start

/-- The end of a field. -/
def fieldEnd : Parse Unit := semicolon "expected semicolon"

/-- A field behind its name; `pos` is where the member starts. -/
def fieldRest (isStatic : Bool) (name : MemberName) (pos : Position) : Parse ClassMember := do
  if isStatic && (name.isFixed "constructor" || name.isFixed "prototype") then
    failAt "class may not have static class fields named 'prototype' or 'constructor'" pos
  if name.isFixed "constructor" then failAt "class may not have field named 'constructor'" pos
  let (value, u) ← recording (within (asBody .method) (initializer? g))
  fieldEnd
  if u.direct.contains argumentsName || u.captured.contains argumentsName then
    failAt "'arguments' not allowed in class field definition" pos
  let value := (value.map (·.named name.units)).getD (.unary .discard (.literal (.number 0)))
  let code ← makeFunction [] .method false none ⟨[], none⟩ ⟨[.answer (some value)], false⟩
    (.ofBody u)
  pure (.field isStatic name code)

/-- A method behind the words before its name. -/
def classMethod (isStatic : Bool) (kind : FunctionKind) (what : MethodKind) (first : Nat)
    (context : String) :
    Parse ClassMember := do
  let name ← memberName g
  let code ← methodRest g [] kind (some first) what context
  pure (.method isStatic what name code)

/-- A getter or setter behind its word `w`, or a field with that name. -/
def classAccessor (isStatic : Bool) (w : String) (t : Token) : Parse ClassMember := do
  let what : MethodKind := if w = "get" then .getter else .setter
  refuseConstructor isStatic ("a " ++ w ++ "ter method")
  if startsMember (← peek).kind then
    classMethod g isStatic .method what t.place.offset ("class " ++ w ++ "ter")
  else fieldRest g isStatic (.fixed (Text.units w)) t.start

/-- Code that runs once, behind its brace. -/
def staticBlock : Parse ClassMember := do
  let (body, u) ← recording (functionBody g .method "class static block")
  let code ← makeFunction [] .method false none ⟨[], none⟩ body (.ofBody u)
  pure (.block code)

/-- A member of a class body, or its constructor. -/
def classElement (className : Units) (derived : Bool) : Parse (FunctionCode ⊕ ClassMember) := do
  let isStatic ← do
    if ← atPair (.word "static") (fun next => !endsName next.kind) then
      let _ ← advance
      pure true
    else pure false
  let t ← peek
  let first := t.place.offset
  let context := "class method definition"
  if isStatic && t.kind = .mark "\x7b" then .inr <$> staticBlock g
  else if !isStatic && t.kind = .word "constructor" then
    let _ ← advance
    let kind : FunctionKind := if derived then .derivedConstructor else .baseConstructor
    if !derived then
      -- a call of the superclass makes no sense here
      let (pos, p, body, parts) ← functionParts g kind "class constructor"
      if parts.whole.callsSuper then failAt "invalid super usage" pos
      checkParameters p body true pos
      .inl <$> makeFunction className kind false none p body parts
    else .inl <$> methodRest g className kind none .value "class constructor"
  else
    match ← wordBeforeName with
    | some "*" =>
      let _ ← advance
      refuseConstructor isStatic "a generator method"
      .inr <$> classMethod g isStatic .suspended .value first context
    | some "async" =>
      let _ ← advance
      let _ ← eatMark "*"
      refuseConstructor isStatic "an async method"
      .inr <$> classMethod g isStatic .suspended .value first context
    | some w =>
      let _ ← advance
      .inr <$> classAccessor g isStatic w t
    | none =>
      if !startsMember t.kind then failAt "unexpected token" t.start
      let name ← memberName g
      if ← atMark "(" then
        let code ← methodRest g [] .method (some first) .value context
        pure (.inr (.method isStatic .value name code))
      else .inr <$> fieldRest g isStatic name t.start

/-- The members of a class body up to its closing brace, which is left, and the constructor. -/
def classElements (className : Units) (derived : Bool) :
    (fuel : Nat) → Option FunctionCode → List ClassMember →
    Parse (Option FunctionCode × List ClassMember)
  | 0, found, done => pure (found, done.reverse)
  | fuel + 1, found, done => do
    if ← atMark "\x7d" then pure (found, done.reverse)
    else if ← eatMark ";" then classElements className derived fuel found done
    else
      let pos ← startAhead
      match ← classElement g className derived with
      | .inl code =>
        if found.isSome then failAt "a class may only have one constructor" pos
        classElements className derived fuel (some code) done
      | .inr member => classElements className derived fuel found (member :: done)

/-- The constructor of a class that does not write one. -/
def plainConstructor (name : Units) (derived : Bool) : Parse FunctionCode := do
  let args := Text.units "args"
  if derived then
    let body : Stmt := .expression (.superCall none [.spread (.read (.name args))])
    makeFunction name .derivedConstructor false none ⟨[], some (.place (.name args))⟩
      ⟨[body], false⟩
      (.ofBody Usage.none)
  else makeFunction name .baseConstructor false none ⟨[], none⟩ ⟨[], false⟩ (.ofBody Usage.none)

/-- A class behind its name. -/
def classTail (name : Units) (hasName : Bool) : Parse ClassCode := do
  let ((heritage, found, members), u) ← recording do
    let heritage ← do
      if ← eatWord "extends" then some <$> g.operand else pure none
    let _ ← expectMark "\x7b" "class tail"
    let (found, members) ← classElements g name heritage.isSome (← charsLeft) none []
    let _ ← expectMark "\x7d" "class tail"
    pure (heritage, found, members)
  let own := if hasName then some (u.declared name true) else none
  use (u.without (if hasName then [name] else []))
  let constructor ← match found with
    | some code => pure code
    | none => plainConstructor name heritage.isSome
  pure (.mk name own heritage constructor members)

/-- A class behind its word, a declaration if it needs a name. -/
def classBehindWord (isDeclaration : Bool) : Parse ClassCode :=
  within (fun s => { s with strict := true }) do
    let t ← peek
    let hasName := match t.kind with
      | .word w => !reservedWords.contains w
      | _ => false
    if hasName then
      let name ← bindingName
      classTail g name true
    else
      if isDeclaration then unexpected t "expected class identifier"
      classTail g [] false

end ScriptHost.Script.Grammar
