import ScriptHost.Script.Grammar.Expression

/-!
# Statements

Declarations, loops, jumps and the rest.  A block that declares a name of its own twice is refused,
and so is one that also declares it by `var`; where a jump makes no sense, that is noted and
reported behind the body around.

* `declaration`, `block`, `loopBody`;
* `statementRule`: a statement;
* `itemRule`: a statement or a declaration.
-/

namespace ScriptHost.Script.Grammar

open Parse

variable (g : Grammar)

/-! ## Blocks -/

/-- Fails if statements declare a name of their own twice,
or one that they also declare by `var`. -/
def checkOwnNames (body : List Stmt) (pos : Position) : Parse Unit := do
  let own := ownNames body
  if clashes (← isStrict) own then failAt "lexical name declared multiple times" pos
  let vars := listVars body
  if own.any fun entry => vars.contains entry.1 then failAt "lexical name declared in var names" pos

/-- What the code around uses of a piece that declares names, which are given with whether they are
constant, and functions. -/
def declareOwn (own : List (Units × Bool)) (functions : List Units) (u : Usage) :
    Parse (List Declared) := do
  use (u.without (own.map (·.1) ++ functions))
  pure (own.map fun entry => u.declared entry.1 entry.2)

/-- A block. -/
def block : Parse Block := do
  let context := "block"
  let _ ← expectMark "\x7b" context
  if ← eatMark "\x7d" then pure (.mk [] [])
  else
    let pos ← startAhead
    let (body, u) ← recording (plainStatements g)
    let _ ← expectMark "\x7d" context
    checkOwnNames body pos
    pure (.mk (← declareOwn (blockNames body) (functionNames body) u) body)

/-! ## Declarations -/

/-- The message for a declaration of the name `let`. -/
def letIsNoName : String := "'let' is disallowed as a lexically bound name"

/-- A name or pattern with its first value, if one follows. -/
def binding : Parse (Pattern × Option Expr) := do
  let p ← bindingPattern g
  let value ← initializer? g
  match p with
  | .place (.name id) => pure (p, value.map (·.named id))
  | p => pure (p, value)

/-- The bindings behind the word `var`. -/
def varBindings : (fuel : Nat) → List (Pattern × Option Expr) → Parse (List (Pattern × Option Expr))
  | 0, done => pure done.reverse
  | fuel + 1, done => do
    let done := (← binding g) :: done
    if ← eatMark "," then varBindings fuel done else pure done.reverse

/-- The bindings behind one of the words `let` and `const`.  In the head of a loop a constant may
come without a value. -/
def ownBindings (constant inHead : Bool) : (fuel : Nat) → List (Pattern × Option Expr) →
    Parse (List (Pattern × Option Expr))
  | 0, done => pure done.reverse
  | fuel + 1, done => do
    let pos ← startAhead
    let b ← binding g
    if (patternNames b.1).contains (Text.units "let") then failAt letIsNoName pos
    if constant && !inHead && b.2.isNone then
      failAt "Expected initializer for const declaration" (← startAhead)
    let done := b :: done
    if (← atStatementEnd) || (← atWord "of") || (← atWord "in") then pure done.reverse
    else if ← eatMark "," then ownBindings constant inHead fuel done
    else expected [";", "line terminator"] (← peek) "lexical declaration binding list"

/-- A declaration by one of the words `let` and `const`, which is ahead, without its end. -/
def ownDeclaration (inHead : Bool) : Parse Stmt := do
  let t ← advance
  let constant := t.kind = .word "const"
  let bindings ← ownBindings g constant inHead (← charsLeft) []
  if (repeatedName? (bindingNames bindings)).isSome then
    failAt "lexical name declared multiple times" t.start
  pure (.declare (if constant then .constant else .mutable) bindings)

/-- A declaration by one of the words `let` and `const` is ahead. -/
def atOwnDeclaration : Parse Bool := do
  let t ← peek
  match t.kind with
  | .word "const" => pure true
  | .word "let" =>
    match ← peekSecond with
    | .word w => pure (w ≠ "of" && !reservedWords.contains w)
    | kind => pure (kind = .mark "[" || kind = .mark "\x7b")
  | _ => pure false

/-! ## Loops -/

/-- A test in parentheses. -/
def testInParentheses (context : String) : Parse Expr := do
  let _ ← expectMark "(" context
  let e ← allowingIn (expression g)
  let _ ← expectMark ")" context
  pure e

/-- A statement that may not be a labelled function. -/
def plainBody (body : Parse Stmt) : Parse Stmt := do
  let pos ← startAhead
  let stmt ← body
  if stmt.isLabelledFunction then
    failAt "labelled functions can only be declared at the top level or inside a block" pos
  pure stmt

/-- Inside a loop, to which the labels before it belong. -/
def asLoop (s : Surroundings) : Surroundings :=
  let j := s.jumps
  { s with
    jumps := { j with
      inLoop := true, loopLabels := j.pending ++ j.loopLabels, pending := [] } }

/-- The body of a loop. -/
def loopBody : Parse Stmt := plainBody (within asLoop g.statement)

/-- What the first part of a loop's head may be. -/
def headRule : Parse (Option Stmt) :=
  within (fun s => { s with allowIn := false }) do
    let t ← peek
    if t.kind = .mark ";" then pure none
    else if ← eatWord "var" then
      some <$> Stmt.declare .var <$> varBindings g (← charsLeft) []
    else if ← atOwnDeclaration then some <$> ownDeclaration g true
    else some <$> Stmt.expression <$> expression g

/-- What a loop over keys or items stores into, given what its head starts with; `what` is how
messages call the loop, and `pos` is where they point. -/
def eachTarget (what : String) (pos : Position) (first : Stmt) :
    Parse (Option DeclarationKind × Pattern) := do
  match first with
  | .declare kind [(p, none)] => pure (some kind, p)
  | .declare _ [_] =>
    failAt ("a declaration in the head of a " ++ what ++ " loop can't have an initializer") pos
  | .declare .. =>
    failAt ("only one variable can be declared in the head of a " ++ what ++ " loop") pos
  | .expression (.read (.name id)) =>
    if (← isStrict) && isRestricted id then
      failAt "cannot use \x60eval\x60 or \x60arguments\x60 as iterable loop variable in strict code" pos
    pure (none, .place (.name id))
  | .expression (.read place) => pure (none, .place place)
  | .expression e =>
    let kind ← match e with
      | .array .. => pure "array"
      | .object _ => pure "object"
      | _ => failAt "invalid variable for iterable loop" pos
    match ← asPattern? e with
    | some p => pure (none, p)
    | none =>
      failAt ("invalid " ++ kind ++ " destructuring pattern in iterable loop initializer") pos
  | _ => failAt "invalid variable for iterable loop" pos

/-- The names that the head of a loop declares for each round; whether they are constant. -/
def headNames : Option Stmt → List (Units × Bool)
  | some stmt => stmt.blockNames
  | none => []

/-- Fails if the body of a loop declares a name by `var` that the head declares for each round. -/
def checkHead (names : List (Units × Bool)) (body : Stmt) (pos : Position) : Parse Unit := do
  let vars := stmtVars body
  if names.any fun entry => vars.contains entry.1 then
    failAt "For loop initializer declared in loop body" pos

/-- A part of a loop's head up to a mark, if there is one. -/
def headPart (closing : String) : Parse (Option Expr) := do
  if ← eatMark closing then pure none
  else
    let e ← allowingIn (expression g)
    let _ ← expectMark closing "for statement"
    pure (some e)

/-- A loop behind its parenthesis, but for the names of its head. -/
def loopParts (first : Option Stmt) : Parse (List Declared → Stmt) := do
  let t ← peek
  let pos ← startAhead
  let names := headNames first
  match first, t.kind with
  | some first, .word w =>
    if w ≠ "of" && w ≠ "in" then expected [";"] t "for statement"
    let isOf := w = "of"
    let (kind, p) ← eachTarget (if isOf then "for-of" else "for-in") pos first
    let _ ← advance
    let e ← allowingIn (if isOf then g.assignment else expression g)
    let _ ← expectMark ")" "for in/of statement"
    let bodyStart ← startAhead
    let body ← loopBody g
    checkHead names body bodyStart
    pure fun own => if isOf then .forOf kind own p e body else .forIn kind own p e body
  | first, _ =>
    match first with
    | some (.declare .constant bindings) =>
      if bindings.any (·.2.isNone) then failAt "Expected initializer for const declaration" pos
    | _ => pure ()
    let _ ← expectMark ";" "for statement"
    let test ← headPart g ";"
    let step ← headPart g ")"
    let bodyStart ← startAhead
    let body ← loopBody g
    checkHead names body bodyStart
    pure fun own => .forLoop own first test step body

/-- A loop behind the word `for`. -/
def forRest : Parse Stmt := do
  let t ← peek
  if t.kind = .word "await" then
    unexpected t "for await...of is only valid in an async function or async generator"
  if t.kind != .mark "(" then unexpected t "for statement"
  let _ ← advance
  let ((first, parts), u) ← recording do
    let first ← headRule g
    pure (first, ← loopParts g first)
  parts <$> declareOwn (headNames first) [] u

/-! ## Jumps -/

/-- The label of a jump, if it has one, and its end. -/
def jumpLabel (context : String) : Parse (Option Units) := do
  if ← atStatementEnd then
    semicolon context
    pure none
  else
    let label ← identifier
    semicolon context
    pure (some label)

/-- The jump out of a statement, behind its word. -/
def leaveRest : Parse Stmt := do
  let label ← jumpLabel "break statement"
  let jumps := (← around).jumps
  match label with
  | some l =>
    if !jumps.labels.contains l then
      noteJump ("undefined break target: " ++ String.ofList (unitChars l))
  | none => if !jumps.inLoop && !jumps.inSwitch then noteJump "illegal break statement"
  pure (.leave label)

/-- The jump to the next round of a loop, behind its word. -/
def nextRest : Parse Stmt := do
  let label ← jumpLabel "continue statement"
  let jumps := (← around).jumps
  match label with
  | some l =>
    if !jumps.loopLabels.contains l then
      noteJump ("undefined continue target: " ++ String.ofList (unitChars l))
  | none => if !jumps.inLoop then noteJump "illegal continue statement"
  pure (.next label)

/-- A function that is declared, its word being ahead. -/
def functionDeclaration : Parse Stmt := do
  let t ← advance
  if t.kind = .word "async" then
    let _ ← advance
  Stmt.function <$> functionBehindWord g t.place.offset (t.kind = .word "async") true

/-- A statement with the label that is ahead. -/
def labelledRest : Parse Stmt := do
  let label ← identifier
  let _ ← expectMark ":" "Labelled Statement"
  if (← around).jumps.labels.contains label then
    noteJump ("duplicate label: " ++ String.ofList (unitChars label))
  let pos ← startAhead
  if ← atWord "function" then
    if ← isStrict then
      failAt "In strict mode code, functions can only be declared at top level or inside a block." pos
    Stmt.labelled label <$> functionDeclaration g
  else
    let inside (s : Surroundings) : Surroundings :=
      let j := s.jumps
      { s with jumps := { j with labels := label :: j.labels, pending := label :: j.pending } }
    Stmt.labelled label <$> within inside g.statement

/-! ## Guarded blocks and selections -/

/-- What is done about a thrown value, behind the word `catch`. -/
def handlerRest : Parse Handler := do
  let pos ← startAhead
  let ((p, body), u) ← recording do
    let p ← do
      if ← eatMark "(" then
        let t ← peek
        let isStart := match t.kind with
          | .word w => !reservedWords.contains w
          | kind => kind = .mark "[" || kind = .mark "\x7b"
        if t.kind = .finish then abruptEnd
        if !isStart then failAt ("unexpected token '" ++ t.kind.spelling ++ "'") t.start
        let p ← bindingPattern g
        let _ ← expectMark ")" "catch in try statement"
        pure (some p)
      else pure none
    let names := (p.map patternNames).getD []
    if (repeatedName? names).isSome then failAt "duplicate catch parameter identifier" pos
    let body ← block g
    let isName := (p.map Pattern.isName).getD true
    let own := (ownNames body.body).map (·.1) ++ (if isName then [] else listVars body.body)
    if names.any own.contains then failAt "catch parameter identifier declared in catch body" pos
    pure (p, body)
  let names := (p.map patternNames).getD []
  pure (.mk p (← declareOwn (names.map (·, false)) [] u) body)

/-- A guarded block behind its word. -/
def guardedRest : Parse Stmt := do
  let body ← block g
  let t ← peek
  if t.kind != .word "catch" && t.kind != .word "finally" then
    expected ["catch", "finally"] t "try statement"
  let handler ← do
    if ← eatWord "catch" then some <$> handlerRest g else pure none
  let finalizer ← do
    if ← eatWord "finally" then some <$> block g else pure none
  pure (.guarded body handler finalizer)

/-- The statements of a case. -/
def caseBody : Parse (List Stmt) := do
  let closing := [.word "case", .word "default", .mark "\x7d"]
  let (body, _) ← statements g closing (← charsLeft) ⟨false, false, none⟩ []
  pure body

/-- The cases of a selection up to its closing brace, which is taken. -/
def casesFrom : (fuel : Nat) → List Case → Parse (List Case)
  | 0, done => pure done.reverse
  | fuel + 1, done => do
    let context := "switch case block"
    let t ← peek
    let test : Option (Option Expr) ← match t.kind with
      | .mark "\x7d" => do
        let _ ← advance
        pure none
      | .word "default" => do
        let _ ← advance
        if done.any fun c => c matches .mk none _ then unexpected t "more than one switch default"
        pure (some none)
      | .word "case" => do
        let _ ← advance
        let e ← allowingIn (expression g)
        pure (some (some e))
      | _ => expected ["case", "default", "\x7d"] t context
    match test with
    | none => pure done.reverse
    | some test =>
      let _ ← expectMark ":" context
      casesFrom fuel (.mk test (← caseBody g) :: done)

/-- The statements of all cases. -/
def caseStatements (cases : List Case) : List Stmt :=
  cases.flatMap fun c => match c with
    | .mk _ body => body

/-- A selection behind its word. -/
def selectRest : Parse Stmt := do
  let e ← testInParentheses g "switch statement"
  let pos ← startAhead
  let _ ← expectMark "\x7b" "switch case block"
  let inside (s : Surroundings) : Surroundings :=
    { s with jumps := { s.jumps with inSwitch := true } }
  let (cases, u) ← recording (within inside (do casesFrom g (← charsLeft) []))
  let body := caseStatements cases
  checkOwnNames body pos
  pure (.select e (← declareOwn (blockNames body) (functionNames body) u) cases)

/-! ## Statements -/

/-- A statement that is an expression. -/
def expressionStatement : Parse Stmt := do
  let t ← peek
  if t.kind = .word "function" || t.kind = .word "class" || (← atAsyncFunction) then
    failAt "expected statement" t.start
  if t.kind = .word "let" then
    let next ← peekAt 1
    if next.kind = .finish then abruptEnd
    if next.kind = .mark "[" then failAt "expected statement" next.start
  let e ← allowingIn (expression g)
  semicolon "expression statement"
  pure (.expression e)

/-- A branch of a choice.  Outside strict code it may be a function,
which then has a block of its own. -/
def branchRule : Parse Stmt := do
  if !(← isStrict) && (← atWord "function") then
    let (stmt, u) ← recording (functionDeclaration g)
    let names ← declareOwn [] (functionNames [stmt]) u
    pure (.block (.mk names [stmt]))
  else plainBody g.statement

/-- A choice behind its word. -/
def branchRest : Parse Stmt := do
  let test ← testInParentheses g "if statement"
  let _ ← startAhead
  let yes ← branchRule g
  let no ← do
    if ← eatWord "else" then
      let _ ← startAhead
      some <$> branchRule g
    else pure none
  pure (.branch test yes no)

/-- The end of a function behind its word; `t` is the word. -/
def answerRest (t : Token) : Parse Stmt := do
  let context := "return statement"
  if !(← around).returns then unexpected t "statement"
  if ← atStatementEnd then
    semicolon context
    pure (.answer none)
  else
    let e ← allowingIn (expression g)
    semicolon context
    pure (.answer (some e))

/-- The throwing of a value, behind its word. -/
def raiseRest : Parse Stmt := do
  let context := "throw statement"
  let t ← peek
  if let some pos := t.lineEnd then failAt ("unexpected token 'line terminator', " ++ context) pos
  let e ← allowingIn (expression g)
  semicolon context
  pure (.raise (e.origin t.start) e)

/-- A statement that is no loop and has no label. -/
def simpleStatement (t : Token) : Parse Stmt := do
  match t.kind with
  | .mark ";" =>
    let _ ← advance
    pure .empty
  | .mark "\x7b" => Stmt.block <$> block g
  | .word w =>
    let rest? : Option (Parse Stmt) := match w with
      | "if" => some (branchRest g)
      | "return" => some (answerRest g t)
      | "break" => some leaveRest
      | "continue" => some nextRest
      | "throw" => some (raiseRest g)
      | "try" => some (guardedRest g)
      | "switch" => some (selectRest g)
      | "debugger" => some do
        semicolon "debugger statement"
        pure .empty
      | "var" => some do
        let bindings ← varBindings g (← charsLeft) []
        semicolon "variable statement"
        pure (.declare .var bindings)
      | _ => none
    match rest? with
    | some rest =>
      let _ ← advance
      rest
    | none => expressionStatement g
  | _ => expressionStatement g

/-- A statement. -/
def statementRule : Parse Stmt := do
  let t ← peek
  match t.kind with
  | .word "for" =>
    let _ ← advance
    forRest g
  | .word "while" =>
    let _ ← advance
    let test ← testInParentheses g "while statement"
    Stmt.whileLoop test <$> loopBody g
  | .word "do" =>
    let _ ← advance
    let context := "do while statement"
    let body ← loopBody g
    let _ ← expectWord "while" context
    let test ← testInParentheses g context
    let _ ← eatMark ";"
    pure (.doWhile body test)
  | kind =>
    let isLabel ← match kind with
      | .word w =>
        if reservedWords.contains w then pure false
        else do pure (decide ((← peekSecond) = .mark ":"))
      | _ => pure false
    if isLabel then labelledRest g
    else within (fun s => { s with jumps := { s.jumps with pending := [] } }) (simpleStatement g t)

/-- A statement or a declaration. -/
def itemRule : Parse Stmt := do
  let t ← peek
  if t.kind = .word "function" || (← atAsyncFunction) then functionDeclaration g
  else if ← eatWord "class" then
    let code ← classBehindWord g true
    match code with
    | .mk name _ _ _ _ => pure (.classOf name code)
  else if ← atOwnDeclaration then
    let stmt ← ownDeclaration g false
    semicolon "lexical declaration"
    pure stmt
  else g.statement

end ScriptHost.Script.Grammar
