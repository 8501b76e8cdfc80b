import ScriptHost.Script.Grammar.Binding

/-!
# Functions

Parameters, bodies and methods.  A body that starts with the directive `use strict` is strict code.
What a function refers to and does not declare is what the code around it has to keep in a scope
that both can see.

* lists of statements with their directives: `statements`;
* `functionBody`, with what a body may not hold;
* `makeFunction`: a function from its parts, and what it uses of the code around;
* `functionBehindWord`, `methodRest`.
-/

namespace ScriptHost.Script.Grammar

open Parse

variable (g : Grammar)

/-! ## Statements and directives -/

/-- What the directives before a statement were. -/
structure Prologue where
  /-- Only directives have been read so far. -/
  goesOn : Bool
  /-- One of them asks for strict code. -/
  strict : Bool
  /-- Where the first one with an octal escape stands. -/
  octal : Option Position

/-- The prologue behind a statement with the given first token. -/
def Prologue.behind (p : Prologue) (t : Token) (stmt : Stmt) : Parse Prologue := do
  if !p.goesOn then pure p
  else
    match t.kind, stmt with
    | .text units escaped octal, .expression (.literal (.string _)) =>
      let here := if octal then some t.start else none
      if units = Text.units "use strict" && !escaped then
        if let some pos := p.octal then
          failAt "legacy octal escape sequences are not allowed in strict mode" pos
        becomeStrict
        pure { p with strict := true }
      else pure { p with octal := p.octal.or here }
    | _, _ => pure { p with goesOn := false }

/-- Statements up to a token that closes their list or to the end of the source, and whether a
directive asked for strict code. -/
def statements (closing : List TokenKind) :
    (fuel : Nat) → Prologue → List Stmt → Parse (List Stmt × Bool)
  | 0, p, done => pure (done.reverse, p.strict)
  | fuel + 1, p, done => do
    let t ← peek
    if t.kind = .finish || closing.contains t.kind then pure (done.reverse, p.strict)
    else
      let stmt ← g.item
      statements closing fuel (← p.behind t stmt) (stmt :: done)

/-- Statements up to a closing brace, without directives. -/
def plainStatements : Parse (List Stmt) := do
  let (body, _) ← statements g [.mark "\x7d"] (← charsLeft) ⟨false, false, none⟩ []
  pure body

/-- Fails if a body declares a name of its own twice, or one that it also declares by `var`. -/
def checkBodyNames (body : List Stmt) : Parse Unit := do
  let own := (blockNames body).map (·.1)
  let vars := varNames body
  if (repeatedName? own).isSome || own.any vars.contains then
    failAt "lexical name declared multiple times" ⟨1, 1⟩

/-! ## Parameters -/

/-- Parameters, and the rest parameter. -/
structure Parameters where
  items : List Pattern
  rest : Option Pattern

namespace Parameters

/-- The names of the parameters. -/
def names (p : Parameters) : List Units := (p.items ++ p.rest.toList).flatMap patternNames

/-- All parameters are just names, and none is a rest parameter. -/
def isSimple (p : Parameters) : Bool := p.rest.isNone && p.items.all Pattern.isName

/-- The values of some parameters have to be computed. -/
def computes (p : Parameters) : Bool := (p.items ++ p.rest.toList).any Pattern.computes

end Parameters

/-- The message for a parameter that occurs twice. -/
def repeatedParameter : String := "Duplicate parameter name not allowed in this context"

/-- A parameter with the value that stands in for a missing one. -/
def parameter : Parse Pattern := do
  let pattern ← bindingPattern g
  match ← allowingIn (initializer? g) with
  | none => pure pattern
  | some e => pure (.default pattern e)

/-- The parameters up to the closing parenthesis, which is left. -/
def parametersFrom : (fuel : Nat) → List Pattern → Parse Parameters
  | 0, done => pure ⟨done.reverse, none⟩
  | fuel + 1, done => do
    if ← atMark ")" then pure ⟨done.reverse, none⟩
    else if ← eatMark "..." then
      let rest ← bindingPattern g
      let t ← peek
      if t.kind != .mark ")" then unexpected t "rest parameter must be the last formal parameter"
      pure ⟨done.reverse, some rest⟩
    else
      let p ← parameter g
      if !(← atMark ")") then
        let _ ← expectMark "," "parameter list"
      parametersFrom fuel (p :: done)

/-- Parameters without the parentheses around them. -/
def parameters : Parse Parameters := do
  let start ← startAhead
  let p ← parametersFrom g (← charsLeft) []
  if !p.isSimple && (repeatedName? p.names).isSome then failAt repeatedParameter start
  pure p

/-- The number of parameters before the first one that may be left out. -/
def requiredCount : List Pattern → Nat
  | [] => 0
  | .default .. :: _ => 0
  | _ :: rest => requiredCount rest + 1

/-! ## Bodies -/

/-- The statements of a function body, and whether a directive asked for strict code. -/
structure Body where
  statements : List Stmt
  asksStrict : Bool

/-- Inside a function of a kind. -/
def asBody (kind : FunctionKind) (s : Surroundings) : Surroundings :=
  { s with returns := true, suspended := kind = .suspended, allowIn := true, jumps := Jumps.none }

/-- The statements of a function body. -/
def bodyStatements (kind : FunctionKind) : Parse Body := do
  let outer ← get
  modify fun s => { s with jumpFault := none }
  let (body, asksStrict) ← within (asBody kind) do
    statements g [.mark "\x7d"] (← charsLeft) ⟨true, false, none⟩ []
  checkJumps
  if outer.covers < (← get).covers then
    failAt "invalid object literal in function statement list" ⟨1, 1⟩
  modify fun s => { s with jumpFault := outer.jumpFault }
  checkBodyNames body
  pure ⟨body, asksStrict⟩

/-- A function body in braces. -/
def functionBody (kind : FunctionKind) (context : String) : Parse Body := do
  let _ ← expectMark "\x7b" context
  let body ← bodyStatements g kind
  let _ ← expectMark "\x7d" context
  pure body

/-- Fails if parameters do not go with the body behind them; `pos` is where messages point.
`unique` says that no name may occur twice anyway. -/
def checkParameters (p : Parameters) (body : Body) (unique : Bool) (pos : Position) :
    Parse Unit := do
  let repeated := (repeatedName? p.names).isSome
  if ((← isStrict) || body.asksStrict || unique) && repeated then failAt repeatedParameter pos
  if body.asksStrict && !p.isSimple then
    failAt "Illegal 'use strict' directive in function with non-simple parameter list" pos
  if body.asksStrict then
    match p.names.find? isRestricted with
    | some name =>
      failAt ("unexpected identifier '" ++ String.ofList (unitChars name) ++ "' in strict mode") pos
    | none => pure ()
  let own := (blockNames body.statements).map (·.1)
  match p.names.find? own.contains with
  | some name =>
    failAt ("formal parameter \x60" ++ String.ofList (unitChars name) ++
      "\x60 declared in lexically declared names") pos
  | none => pure ()

/-- The name of the list of arguments. -/
def argumentsName : Units := Text.units "arguments"

/-- What the parts of a function refer to. -/
structure PartsUsage where
  parameters : Usage
  body : Usage

/-- What a function without parameters refers to. -/
def PartsUsage.ofBody (u : Usage) : PartsUsage := ⟨Usage.none, u⟩

/-- What the function refers to as a whole. -/
def PartsUsage.whole (parts : PartsUsage) : Usage := parts.parameters.join parts.body

/-- A function from its parts, given what they refer to; the code around then uses what the function
does not declare.  What computed parameters refer to is not what the body declares. -/
def makeFunction (name : Units) (kind : FunctionKind) (bindsItself : Bool) (source : Option Units)
    (p : Parameters) (body : Body) (parts : PartsUsage) : Parse FunctionCode := do
  let isArrow := kind = .arrow
  let whole := parts.whole
  let mentionsArguments :=
    whole.evaluates || whole.direct.contains argumentsName || whole.captured.contains argumentsName
  let usesArguments := !isArrow && mentionsArguments
  let vars := varNames body.statements
  let own := blockNames body.statements
  let bodyNames := vars ++ own.map (·.1)
  let inBody := if p.computes then parts.body else whole
  let above := if p.computes then parts.parameters.join (parts.body.without bodyNames) else whole
  let names := p.names ++ (if usesArguments then [argumentsName] else [])
  let free := above.without (if p.computes then names else names ++ bodyNames)
  let beyond := free.without (if bindsItself then [name] else [])
  use (Usage.ofInner beyond isArrow)
  let computed := if p.computes then some (p.names.map (above.declared · false)) else none
  pure (.mk
    { name := name
      kind := kind
      strict := (← isStrict) || body.asksStrict
      bindsItself := bindsItself
      length := requiredCount p.items
      computed := computed
      vars := vars.map (inBody.declared · false)
      names := own.map fun entry => inBody.declared entry.1 entry.2
      source := source
      usesArguments := usesArguments
      slots := free.slots + 2 }
    p.items p.rest body.statements)

/-- Parameters in parentheses, a body in braces, and what they refer to; the first answer is the
position behind the opening parenthesis. -/
def functionParts (kind : FunctionKind) (context : String) :
    Parse (Position × Parameters × Body × PartsUsage) := do
  let opening ← expectMark "(" context
  let (p, u) ← recording (within (asBody kind) (parameters g))
  let _ ← expectMark ")" context
  let (body, v) ← recording (functionBody g kind context)
  pure (opening.stop, p, body, ⟨u, v⟩)

/-- Parameters and a body in braces; the source of the function begins at `first`. -/
def functionRest (name : Units) (kind : FunctionKind) (bindsItself : Bool) (first : Nat)
    (context : String) : Parse FunctionCode := do
  let (pos, p, body, parts) ← functionParts g kind context
  checkParameters p body false pos
  if parts.whole.usesSuper || parts.whole.callsSuper then failAt "invalid super usage" pos
  makeFunction name kind bindsItself (some (← sourceFrom first)) p body parts

/-- A function behind its word, a declaration if it needs a name. -/
def functionBehindWord (first : Nat) (isAsync isDeclaration : Bool) : Parse FunctionCode := do
  let isGenerator ← eatMark "*"
  let kind : FunctionKind := if isAsync || isGenerator then .suspended else .normal
  let what := match isAsync, isGenerator with
    | true, true => "async generator"
    | true, false => "async function"
    | false, true => "generator"
    | false, false => "function"
  let context := what ++ (if isDeclaration then " declaration" else " expression")
  let t ← peek
  if isDeclaration then
    if t.kind = .mark "(" then unexpected t context
    let name ← bindingName
    functionRest g name kind false first context
  else
    match t.kind with
    | .word w =>
      if reservedWords.contains w then expected ["("] t context
      let name ← bindingName
      functionRest g name kind true first context
    | _ => functionRest g [] kind false first context

/-! ## Methods -/

/-- A method behind its name, which is `label` in traces; `what` is how messages call it. -/
def methodRest (label : Units) (kind : FunctionKind) (source : Option Nat) (what : MethodKind)
    (suffix : String) :
    Parse FunctionCode := do
  let text : Parse (Option Units) := do
    match source with
    | some first => some <$> sourceFrom first
    | none => pure none
  let finish (pos : Position) (p : Parameters) (body : Body) (parts : PartsUsage) :
      Parse FunctionCode := do
    checkParameters p body true pos
    if parts.whole.callsSuper && kind ≠ .derivedConstructor then
      failAt "invalid super call usage" pos
    makeFunction label kind false (← text) p body parts
  match what with
  | .value => do
    let (pos, p, body, parts) ← functionParts g kind suffix
    finish pos p body parts
  | .getter => do
    let opening ← expectMark "(" suffix
    let _ ← expectMark ")" suffix
    let (body, u) ← recording (functionBody g kind suffix)
    finish opening.stop ⟨[], none⟩ body (.ofBody u)
  | .setter => do
    let opening ← expectMark "(" suffix
    let (p, u) ← recording (within (asBody kind) (parameter g))
    let _ ← expectMark ")" suffix
    let (body, v) ← recording (functionBody g kind suffix)
    finish opening.stop ⟨[p], none⟩ body ⟨u, v⟩

end ScriptHost.Script.Grammar
