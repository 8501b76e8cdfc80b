import ScriptHost.Script.Grammar.Class

/-!
# Expressions

From the innermost outwards: literals and names (`primary`), what can be called (`operandRule`),
operators on one operand (`unary`), operators on two (`binary`, `shortCircuit`), and assignments
(`assignmentRule`).

Parentheses may hold an expression or the parameters of an arrow function.  Which it is shows behind
them, so they are read once (`parenthesised`) and then taken as either.  Rules that may go on behind
a group that has been read already take it as their `head`.
-/

namespace ScriptHost.Script.Grammar

open Parse

variable (g : Grammar)

/-! ## Lists -/

/-- Arguments up to the closing parenthesis, which is taken. -/
def argumentsFrom : (fuel : Nat) → List Item → Parse (List Item)
  | 0, done => pure done.reverse
  | fuel + 1, done => do
    let t ← peek
    if t.kind = .mark ")" then
      let _ ← advance
      pure done.reverse
    else
      if t.kind = .mark "," then
        let _ ← advance
        if done.isEmpty then failAt "unexpected token ','" t.start
      else if !done.isEmpty then expected [",", ")"] t "argument list"
      if ← pure (!done.isEmpty) <&&> eatMark ")" then pure done.reverse
      else
        let item ← do
          if ← eatMark "..." then Item.spread <$> g.assignment else Item.value <$> g.assignment
        argumentsFrom fuel (item :: done)

/-- Arguments behind their parenthesis. -/
def arguments : Parse (List Item) := do allowingIn (argumentsFrom g (← charsLeft) [])

/-- The elements of an array literal behind its bracket.  `due` says that a comma has to come before
the next element; the second answer, that a comma follows a last element that is spread. -/
def elementsFrom : (fuel : Nat) → (due : Bool) → List Item → Parse (List Item × Bool)
  | 0, _, done => pure (done.reverse, false)
  | fuel + 1, due, done => do
    let t ← peek
    if t.kind = .mark "]" then
      let _ ← advance
      let isSealed := !due && match done with
        | .spread _ :: _ => true
        | _ => false
      pure (done.reverse, isSealed)
    else if t.kind = .mark "," then
      let _ ← advance
      elementsFrom fuel false (if due then done else .hole :: done)
    else
      if due then unexpected t "expected comma or end of array"
      let item ← do
        if ← eatMark "..." then Item.spread <$> g.assignment else Item.value <$> g.assignment
      elementsFrom fuel true (item :: done)

/-- An array literal behind its bracket. -/
def arrayLiteral : Parse Expr := do
  let (items, isSealed) ← allowingIn (elementsFrom g (← charsLeft) false [])
  pure (.array items isSealed)

/-! ## Object literals -/

/-- A member behind its name, which its first token `t` may have begun. -/
def memberRest (t : Token) (name : MemberName) : Parse Member := do
  let first := t.place.offset
  let isMethod ← atMark "("
  let accessor (what : MethodKind) (context : String) : Parse Member := do
    let name ← memberName g
    pure (.method what name (← methodRest g name.units .method (some first) what context))
  if name.isFixed "get" && !isMethod then accessor .getter "get method definition"
  else if name.isFixed "set" && !isMethod then accessor .setter "set method definition"
  else pure (.method .value name
    (← methodRest g name.units .method (some first) .value "method definition"))

/-- A member of an object literal. -/
def objectMember : Parse Member := do
  let t ← peek
  let second ← peekSecond
  let suspended : Parse Member := do
    let name ← memberName g
    let code ← methodRest g name.units .suspended (some t.place.offset) .value "method definition"
    pure (.method .value name code)
  if second = .finish then abruptEnd
  else if second = .mark "\x7d" || second = .mark "," then
    let name ← reference
    pure (.value (.fixed name) (.read (.name name)))
  else if second = .mark "=" then
    let name ← reference
    let _ ← advance
    let e ← g.assignment
    modify fun s => { s with covers := s.covers + 1 }
    pure (.cover name e)
  else if ← eatMark "..." then Member.spread <$> g.assignment
  else if ← eatMark "*" then suspended
  else if t.kind = .word "async" && second != .mark "(" && second != .mark ":" then
    let _ ← advance
    let _ ← eatMark "*"
    suspended
  else
    let name ← memberName g
    if ← eatMark ":" then
      let e ← g.assignment
      if name.isFixed "__proto__" then pure (.prototype e)
      else pure (.value name (e.named name.units))
    else memberRest g t name

/-- The members of an object literal behind its brace.  `proto` says that the prototype has been
set, `again` where that was done a second time. -/
def membersFrom :
    (fuel : Nat) → (proto : Bool) → (again : Option Position) → List Member → Parse (List Member)
  | 0, _, _, done => pure done.reverse
  | fuel + 1, proto, again, done => do
    if ← eatMark "\x7d" then
      match again with
      | some pos =>
        if !(← atMark "=") then
          failAt "Duplicate __proto__ fields are not allowed in object literals." pos
      | none => pure ()
      pure done.reverse
    else
      let pos ← startAhead
      let member ← objectMember g
      if !(← atMark "\x7d") then
        let t ← peek
        if t.kind != .mark "," then expected [",", "\x7d"] t "object literal"
        let _ ← advance
      match member with
      | .prototype _ =>
        membersFrom fuel true (again.or (if proto then some pos else none)) (member :: done)
      | _ => membersFrom fuel proto again (member :: done)

/-- An object literal behind its brace. -/
def objectLiteral :
    Parse Expr := do Expr.object <$> allowingIn (do membersFrom g (← charsLeft) false none [])

/-! ## Templates -/

/-- A piece of a template: its text, unless that is faulty, its raw text, and the fault. -/
structure TemplatePiece where
  cooked : Units
  raw : Units
  fault : Option String

/-- The expressions of a template behind its first piece, each with the piece behind it. -/
def templateFrom : (fuel : Nat) → List (Expr × TemplatePiece) → Parse (List (Expr × TemplatePiece))
  | 0, done => pure done.reverse
  | fuel + 1, done => do
    let e ← allowingIn (expression g)
    let closing ← expectMark "\x7d" "template literal"
    let t ← takeAt closing.behind Cursor.template
    match t.kind with
    | .template cooked raw last fault =>
      let done := (e, ⟨cooked, raw, fault⟩) :: done
      if last then pure done.reverse else templateFrom fuel done
    | _ => unexpected t "template literal"

/-- The expressions of a template behind its first piece. -/
def templateParts (last : Bool) : Parse (List (Expr × TemplatePiece)) := do
  if last then pure [] else templateFrom g (← charsLeft) []

/-- A template behind its first piece. -/
def templateLiteral (piece : TemplatePiece) (last : Bool) : Parse Expr := do
  let check (p : TemplatePiece) : Parse Unit := match p.fault with
    | some message => throw message
    | none => pure ()
  check piece
  let parts ← templateParts g last
  parts.forM fun part => check part.2
  pure (.template piece.cooked (parts.map fun part => (part.1, part.2.cooked)))

/-- A call with a template whose first piece has been read. -/
def taggedTemplate (tag : Expr) (pos : Position) (piece : TemplatePiece) (last : Bool) :
    Parse Expr := do
  let parts ← templateParts g last
  let text (p : TemplatePiece) : Option Units × Units :=
    (if p.fault.isSome then none else some p.cooked, p.raw)
  pure (.tagged pos tag (text piece :: parts.map fun part => text part.2) (parts.map (·.1)))

/-! ## Parentheses -/

/-- What stands in parentheses: perhaps an expression, and perhaps a rest parameter. -/
structure Parenthesised where
  /-- The token behind the opening parenthesis. -/
  first : Position
  e : Option Expr
  rest : Option Pattern
  /-- Where the closing parenthesis stands if a comma comes before it. -/
  comma : Option Position

/-- The inside of parentheses behind the opening one; the closing one is taken. -/
def parenthesised : Parse Parenthesised := do
  let context := "CoverParenthesizedExpressionAndArrowParameterList"
  let first ← startAhead
  let restParameter (e : Option Expr) : Parse Parenthesised := do
    let rest ← bindingPattern g
    let _ ← expectMark ")" context
    pure ⟨first, e, some rest, none⟩
  if ← eatMark ")" then pure ⟨first, none, none, none⟩
  else if ← eatMark "..." then restParameter none
  else
    let e ← allowingIn (expression g)
    if ← eatMark ")" then pure ⟨first, some e, none, none⟩
    else if ← eatMark "," then
      let t ← peek
      if ← eatMark ")" then pure ⟨first, some e, none, some t.start⟩
      else if ← eatMark "..." then restParameter (some e)
      else expected [")", "..."] t context
    else expected [")", ","] (← peek) context

/-- The expression in parentheses. -/
def Parenthesised.group (p : Parenthesised) : Parse Expr := do
  let refuse (mark context : String) (pos : Position) : Parse Expr :=
    failAt ("unexpected token '" ++ mark ++ "', " ++ context) pos
  match p.comma, p.e, p.rest with
  | some pos, _, _ => refuse "," "trailing comma in parenthesized expression" pos
  | none, none, none => refuse ")" "empty parenthesized expression" p.first
  | none, some _, some _ => refuse ")" "multiple expressions in parenthesized expression" p.first
  | none, none, some _ => refuse ")" "parenthesized expression with spread expressions" p.first
  | none, some e, none => pure (.group e)

/-- The parameters that an expression in parentheses spells; `pos` is where messages point. -/
def parametersOf (pos : Position) : Expr → Parse (List Pattern)
  | .read (.name id) => do
    if (← isStrict) && isRestricted id then
      failAt ("parameter name '" ++ String.ofList (unitChars id) ++
        "' not allowed in strict mode") pos
    pure [.place (.name id)]
  | .sequence first second => do
    let front ← parametersOf pos first
    pure (front ++ (← parametersOf pos second))
  | .assign _ (.name id) value => pure [.default (.place (.name id)) value]
  | .assignPattern pattern value => pure [.default pattern value]
  | .assign .. | .compound .. | .compoundLogical .. =>
    failAt "invalid initialization operator in formal parameter list" pos
  | e => do
    let what ← match e with
      | .array .. => pure "array"
      | .object _ => pure "object"
      | _ => failAt "unexpected token ')', parenthesized expression with non-binding expression" pos
    match ← asPattern? e with
    | some pattern => pure [pattern]
    | none => failAt ("invalid " ++ what ++ " binding pattern in formal parameter list") pos

/-- The parameters in parentheses. -/
def Parenthesised.parameters (p : Parenthesised) : Parse Parameters := do
  match p.e with
  | some e => pure ⟨← parametersOf p.first e, p.rest⟩
  | none => pure ⟨[], p.rest⟩

/-! ## Operands -/

/-- The literal that a word is. -/
def wordLiteral? : String → Option Expr
  | "this" => some .this
  | "null" => some (.literal .null)
  | "true" => some (.literal (.boolean true))
  | "false" => some (.literal (.boolean false))
  | _ => none

/-- A literal, a name, or an expression in parentheses. -/
def primary : Parse Expr := do
  let t ← peek
  match t.kind with
  | .number x =>
    let _ ← advance
    pure (.literal (.number x))
  | .bigint n =>
    let _ ← advance
    pure (.literal (.bigint n))
  | .text units _ _ =>
    let _ ← advance
    pure (.literal (.string units))
  | .template cooked raw last fault =>
    let _ ← advance
    templateLiteral g ⟨cooked, raw, fault⟩ last
  | .mark "/" | .mark "/=" =>
    let t ← takeAt t.place Cursor.regexp
    match t.kind with
    | .regexp body flags => pure (.regexp body flags)
    | _ => unexpected t "regular expression literal"
  | .mark "(" =>
    let _ ← advance
    (← parenthesised g).group
  | .mark "[" =>
    let _ ← advance
    arrayLiteral g
  | .mark "\x7b" =>
    let _ ← advance
    objectLiteral g
  | .word "function" =>
    let _ ← advance
    Expr.function <$> functionBehindWord g t.place.offset false false
  | .word "class" =>
    let _ ← advance
    Expr.classOf <$> classBehindWord g false
  | .word w =>
    if let some e := wordLiteral? w then
      let _ ← advance
      pure e
    else if ← atAsyncFunction then
      let _ ← advance
      let _ ← advance
      Expr.function <$> functionBehindWord g t.place.offset true false
    else if reservedWords.contains w then unexpected t "primary expression"
    else
      let name ← reference
      pure (.read (.name name))
  | _ => unexpected t "primary expression"

/-- The field behind a dot.  Messages are about `dot` if it is given,
and else about what is no field. -/
def fieldOf (base : Expr) (dot : Option Token) (context : String) : Parse Expr := do
  let t ← peek
  match t.kind with
  | .word w =>
    let _ ← advance
    pure (.read (.property t.start base (wordUnits w)))
  | .finish => abruptEnd
  | _ => expected ["identifier"] (dot.getD t) context

/-- The computed key behind a bracket. -/
def elementOf (base : Expr) (context : String) : Parse Expr := do
  let t ← peek
  let key ← allowingIn (expression g)
  let _ ← expectMark "]" context
  pure (.read (.element t.start base key))

/-- A call of what an expression gives. -/
def callOf (pos : Position) (callee : Expr) (optional : Bool) (args : List Item) : Parse Expr := do
  match callee.bare with
  | .read place =>
    if let .name id := place then
      if id = Text.units "eval" then use { Usage.none with evaluates := true }
    pure (.call pos place optional args)
  | _ => pure (.apply pos callee optional args)

/-- Fields, keys and templates behind an expression. -/
def memberSuffixes : (fuel : Nat) → Expr → Parse Expr
  | 0, e => pure e
  | fuel + 1, e => do
    let t ← peek
    match t.kind with
    | .mark "." =>
      let _ ← advance
      memberSuffixes fuel (← fieldOf e none "member expression")
    | .mark "[" =>
      let _ ← advance
      memberSuffixes fuel (← elementOf g e "member expression")
    | .template cooked raw last fault =>
      let _ ← advance
      memberSuffixes fuel (← taggedTemplate g e t.start ⟨cooked, raw, fault⟩ last)
    | _ => pure e

/-- Calls, fields, keys and templates behind a call. -/
def callSuffixes : (fuel : Nat) → Expr → Parse Expr
  | 0, e => pure e
  | fuel + 1, e => do
    let t ← peek
    match t.kind with
    | .mark "(" =>
      let _ ← advance
      callSuffixes fuel (← callOf t.start e false (← arguments g))
    | .mark "." =>
      let _ ← advance
      callSuffixes fuel (← fieldOf e (some t) "call expression")
    | .mark "[" =>
      let _ ← advance
      callSuffixes fuel (← elementOf g e "call expression")
    | .template cooked raw last fault =>
      let _ ← advance
      callSuffixes fuel (← taggedTemplate g e t.start ⟨cooked, raw, fault⟩ last)
    | _ => pure e

/-- The links of a chain that is left where one finds nothing, from its first `?.` on. -/
def chainFrom : (fuel : Nat) → Expr → Parse Expr
  | 0, e => pure e
  | fuel + 1, e => do
    let context := "optional chain"
    let isLink ← eatMark "?."
    let base := if isLink then .link e else e
    let t ← peek
    match t.kind with
    | .mark "(" =>
      let _ ← advance
      chainFrom fuel (← callOf t.start e isLink (← arguments g))
    | .mark "[" =>
      let _ ← advance
      chainFrom fuel (← elementOf g base context)
    | .template .. => failAt "Invalid tagged template on optional chain" t.start
    | kind =>
      if isLink then chainFrom fuel (← fieldOf base none context)
      else if kind = .mark "." then
        let _ ← advance
        chainFrom fuel (← fieldOf base none context)
      else pure (.chain e)

/-- A property of the superclass's prototype, behind its word. -/
def superProperty : Parse Expr := do
  use { Usage.none with usesSuper := true }
  let t ← advance
  match t.kind with
  | .mark "." =>
    let field ← advance
    match field.kind with
    | .word w => pure (.read (.superProperty field.start (wordUnits w)))
    | _ => unexpected field "expected super property"
  | .mark "[" =>
    let key ← peek
    let e ← allowingIn (expression g)
    let _ ← expectMark "]" "super property"
    pure (.read (.superElement key.start e))
  | _ => unexpected t "expected super property"

/-- Modules have something behind the word `import`, and scripts do not. -/
def importMeta {α : Type} : Parse α := do
  let context := "import.meta"
  let word ← advance
  let _ ← expectMark "." context
  let t ← peek
  if t.kind = .word "meta" then
    failAt "invalid \x60import.meta\x60 expression outside a module" word.start
  else expected ["property \x60meta\x60"] t context

/-- What can be constructed: an expression with its fields, perhaps behind `new` words. -/
def member : (fuel : Nat) → Parse Expr
  | 0 => primary g
  | fuel + 1 => do
    let t ← peek
    let base ← do
      if t.kind = .word "new" then
        let _ ← advance
        if ← eatMark "." then
          let _ ← expectWord "target" "new.target"
          use { Usage.none with usesTarget := true }
          pure .newTarget
        else
          let callee ← member fuel
          let args ← do
            if ← eatMark "(" then arguments g else pure []
          pure (.construct t.start callee args)
      else if t.kind = .word "super" then
        let _ ← advance
        superProperty g
      else if t.kind = .word "import" then importMeta
      else primary g
    memberSuffixes g (← charsLeft) base

/-- An operand that goes on behind `head`. -/
def operandFrom (head : Option Expr) : Parse Expr := do
  let _ ← peek
  let bound ← charsLeft
  let e ← do
    if ← pure head.isNone <&&> atPair (.word "super") (·.kind = .mark "(") then
      let _ ← advance
      let opening ← advance
      use { Usage.none with callsSuper := true }
      pure (.superCall (some opening.start) (← arguments g))
    else
      let base ← match head with
        | some e => memberSuffixes g bound e
        | none => member g bound
      if ← atMark "(" then callSuffixes g bound base else pure base
  if ← atMark "?." then chainFrom g bound e else pure e

/-- What can be called or constructed, with its fields and calls. -/
def operandRule : Parse Expr := operandFrom g none

/-! ## Operators -/

/-- The change that an update mark makes. -/
def updateMark? : TokenKind → Option Int
  | .mark "++" => some 1
  | .mark "--" => some (-1)
  | _ => none

/-- The operator that a token is in front of an operand. -/
def unaryOp? : TokenKind → Option UnaryOp
  | .mark "+" => some .plus
  | .mark "-" => some .minus
  | .mark "!" => some .not
  | .mark "~" => some .complement
  | .word "void" => some .discard
  | .word "typeof" => some .typeName
  | _ => none

/-- An operand with an update behind it. -/
def postfixFrom (head : Option Expr) (start : Position) : Parse Expr := do
  let e ← operandFrom g head
  let t ← peek
  match updateMark? t.kind with
  | some delta =>
    if t.afterLineEnd then pure e
    else
      let _ ← advance
      pure (.update delta false (← targetPlace start e))
  | none => pure e

/-- The deletion of what an expression reads; `pos` is where its word stands. -/
def deletion (pos : Position) (e : Expr) : Parse Expr := do
  match e.bare with
  | .read (.name id) =>
    if ← isStrict then failAt "cannot delete variables in strict mode" pos
    pure (.delete (.name id))
  | .read place => pure (.delete place)
  | .chain (.read place) => pure (.chain (.delete place))
  | e => pure (.sequence e (.literal (.boolean true)))

/-- Operators in front of an operand. -/
def unary : (fuel : Nat) → Parse Expr
  | 0 => operandRule g
  | fuel + 1 => do
    let t ← peek
    match unaryOp? t.kind, updateMark? t.kind with
    | some op, _ =>
      let _ ← advance
      let e ← unary fuel
      pure (match op, e.bare with
        | .typeName, .read (.name id) => .typeOfName id
        | op, _ => .unary op e)
    | none, some delta =>
      let _ ← advance
      pure (.update delta true (← targetPlace t.start (← unary fuel)))
    | none, none =>
      if t.kind = .word "delete" then
        let _ ← advance
        deletion t.start (← unary fuel)
      else if t.kind = .word "await" && (← around).suspended then
        let _ ← advance
        unary fuel
      else postfixFrom g none t.start

/-- The token is an operator in front of an operand, whose result is no base of a power. -/
def startsUnary (kind : TokenKind) : Bool := (unaryOp? kind).isSome || kind = .word "delete"

/-- A power, whose right operand is one itself. -/
def power : (fuel : Nat) → (head : Option Expr) → (start : Position) → Parse Expr
  | 0, head, start => postfixFrom g head start
  | fuel + 1, head, start => do
    let t ← peek
    if head.isNone && startsUnary t.kind then unary g fuel
    else
      let base ← if head.isSome then postfixFrom g head start else unary g fuel
      if ← eatMark "**" then
        let t ← peek
        pure (.binary .power base (← power fuel none t.start))
      else pure base

/-- The operator that a token is between operands, and how tightly it binds. -/
def joining? (allowIn : Bool) : TokenKind → Option (Nat × BinaryOp)
  | .mark "|" => some (1, .bitOr)
  | .mark "^" => some (2, .bitXor)
  | .mark "&" => some (3, .bitAnd)
  | .mark "==" => some (4, .equal)
  | .mark "!=" => some (4, .notEqual)
  | .mark "===" => some (4, .same)
  | .mark "!==" => some (4, .notSame)
  | .mark "<" => some (5, .less)
  | .mark ">" => some (5, .greater)
  | .mark "<=" => some (5, .lessEqual)
  | .mark ">=" => some (5, .greaterEqual)
  | .word "instanceof" => some (5, .isInstance)
  | .word "in" => if allowIn then some (5, .isMember) else none
  | .mark "<<" => some (6, .shiftLeft)
  | .mark ">>" => some (6, .shiftRight)
  | .mark ">>>" => some (6, .shiftRightUnsigned)
  | .mark "+" => some (7, .add)
  | .mark "-" => some (7, .subtract)
  | .mark "*" => some (8, .multiply)
  | .mark "/" => some (8, .divide)
  | .mark "%" => some (8, .remainder)
  | _ => none

/-- Goes on behind `left` with operators that bind at least as tightly as `least`. -/
def binaryFrom : (fuel least : Nat) → (left : Expr) → Parse Expr
  | 0, _, left => pure left
  | fuel + 1, least, left => do
    let t ← peek
    match joining? (← around).allowIn t.kind with
    | none => pure left
    | some (level, op) =>
      if level < least then pure left
      else
        let _ ← advance
        let next ← peek
        let operand ← power g fuel none next.start
        let right ← binaryFrom fuel (level + 1) operand
        binaryFrom fuel least (.binary op left right)

/-- Operators that take both operands. -/
def binary (head : Option Expr) (start : Position) : Parse Expr := do
  let bound ← charsLeft
  let left ← power g bound head start
  binaryFrom g bound 0 left

/-- The operator that a token is between operands, if it may leave out the second one. -/
def logical? : TokenKind → Option LogicalOp
  | .mark "&&" => some .both
  | .mark "||" => some .either
  | .mark "??" => some .default
  | _ => none

/-- Goes on behind `left` with operators that may leave out their second operand; `before` is the
operator before `left`, with which another one may not be mixed. -/
def shortCircuitFrom : (fuel : Nat) → (before : Option LogicalOp) → (left : Expr) → Parse Expr
  | 0, _, left => pure left
  | fuel + 1, before, left => do
    let t ← peek
    match logical? t.kind with
    | none => pure left
    | some op =>
      if op = .default && before.any (· ≠ .default) then
        expected ["&&", "||"] t "cannot use '??' unparenthesized within '||' or '&&'"
      if op ≠ .default && before = some .default then
        expected ["??"] t "logical expression (cannot use '??' without parentheses within '||' or '&&')"
      let _ ← advance
      let next ← peek
      let operand ← binary g none next.start
      let right ← if op = .either then shortCircuitFrom fuel (some op) operand else pure operand
      shortCircuitFrom fuel (some op) (.logical op left right)

/-- A choice between two expressions, or one expression. -/
def conditional (head : Option Expr) (start : Position) : Parse Expr := do
  let left ← binary g head start
  let test ← shortCircuitFrom g (← charsLeft) none left
  if ← eatMark "?" then
    let yes ← allowingIn g.assignment
    let _ ← expectMark ":" "conditional expression"
    let no ← g.assignment
    pure (.conditional test yes no)
  else pure test

/-! ## Arrow functions -/

/-- An arrow function behind its parameters, which use `u`; it starts at `start`,
and its source at `first`. -/
def arrowRest (first : Nat) (start : Position) (kind : FunctionKind) (p : Parameters) (u : Usage) :
    Parse Expr := do
  let context := "arrow function"
  let _ ← expectMark "=>" context
  let allowIn := (← around).allowIn
  let (body, v) ← recording do
    if ← atMark "\x7b" then functionBody g kind context
    else
      let e ← within (fun s => { asBody kind s with allowIn := allowIn }) g.assignment
      pure ⟨[.answer (some e)], false⟩
  checkParameters p body true start
  Expr.function <$> makeFunction [] kind false (some (← sourceFrom first)) p body ⟨u, v⟩

/-- An arrow function with one parameter without parentheses. -/
def bareArrow (first : Nat) (start : Position) (kind : FunctionKind) : Parse Expr := do
  let id ← bindingName
  arrowRest g first start kind ⟨[.place (.name id)], none⟩ Usage.none

/-- The mark of an arrow function is ahead. -/
def atArrow : Parse Bool := do
  let t ← peek
  pure (t.kind = .mark "=>" && !t.afterLineEnd)

/-- An asynchronous arrow function, if one is ahead. -/
def asyncArrow? : Parse (Option Expr) := do
  let t ← peek
  let next ← peekAt 1
  let first := t.place.offset
  if t.kind != .word "async" || next.afterLineEnd then pure none
  else
    match next.kind with
    | .word w =>
      if ← pure (!reservedWords.contains w) <&&> (do pure ((← peekAt 2).kind = .mark "=>")) then
        let _ ← advance
        some <$> bareArrow g first t.start .suspended
      else pure none
    | .mark "(" =>
      let outer ← get
      let _ ← advance
      let _ ← advance
      try
        let (p, u) ← recording (parenthesised g)
        if ← atArrow then
          some <$> arrowRest g first t.start .suspended (← p.parameters) u
        else
          set outer
          pure none
      catch _ =>
        set outer
        pure none
    | _ => pure none

/-! ## Assignments -/

/-- What an assignment mark does besides storing. -/
inductive AssignmentOp
  | plain
  | compound (op : BinaryOp)
  | logical (op : LogicalOp)

/-- The assignment that a mark stands for. -/
def assignmentOp? : TokenKind → Option AssignmentOp
  | .mark "=" => some .plain
  | .mark "+=" => some (.compound .add)
  | .mark "-=" => some (.compound .subtract)
  | .mark "*=" => some (.compound .multiply)
  | .mark "/=" => some (.compound .divide)
  | .mark "%=" => some (.compound .remainder)
  | .mark "**=" => some (.compound .power)
  | .mark "<<=" => some (.compound .shiftLeft)
  | .mark ">>=" => some (.compound .shiftRight)
  | .mark ">>>=" => some (.compound .shiftRightUnsigned)
  | .mark "&=" => some (.compound .bitAnd)
  | .mark "|=" => some (.compound .bitOr)
  | .mark "^=" => some (.compound .bitXor)
  | .mark "&&=" => some (.logical .both)
  | .mark "||=" => some (.logical .either)
  | .mark "??=" => some (.logical .default)
  | _ => none

/-- The value of an assignment to a place, named after it if it has no name. -/
def assignedValue (place : Place) : Parse Expr := do
  let value ← g.assignment
  match place with
  | .name id => pure (value.named id)
  | _ => pure value

/-- The assignment to what an expression reads, if a mark for one is ahead;
the expression starts at `start`. -/
def assignmentTo (start : Position) (e : Expr) : Parse Expr := do
  let t ← peek
  match assignmentOp? t.kind with
  | none => pure e
  | some op =>
    let _ ← advance
    let plainTarget : Parse Expr := do
      let place ← targetPlace t.start e
      pure (.assign (e.origin start) place (← assignedValue g place))
    match op, e with
    | .plain, .array .. | .plain, .object _ =>
      match ← asPattern? e with
      | some pattern => .assignPattern pattern <$> g.assignment
      | none => failAt badTarget t.start
    | .plain, _ => plainTarget
    | .compound op, _ =>
      let place ← targetPlace t.start e
      pure (.compound op place (← g.assignment))
    | .logical op, _ =>
      let place ← targetPlace t.start e
      pure (.compoundLogical op place (← assignedValue g place))

/-- The operand of `yield`, which may be missing. -/
def yieldRest : Parse Expr := do
  let _ ← eatMark "*"
  let t ← peek
  let isEnd := t.afterLineEnd || t.kind = .finish ||
    [")", "]", "\x7d", ",", ";", ":"].any fun m => t.kind = .mark m
  if isEnd then pure (.unary .discard (.literal (.number 0))) else g.assignment

/-- An expression without a comma that goes on behind `head`. -/
def assignmentFrom (head : Option Expr) (start : Position) : Parse Expr := do
  let e ← conditional g head start
  assignmentTo g start e

/-- An expression without a comma. -/
def assignmentRule : Parse Expr := do
  let t ← peek
  let first := t.place.offset
  match t.kind with
  | .mark "(" =>
    let _ ← advance
    let (p, u) ← recording (parenthesised g)
    if ← atArrow then arrowRest g first t.start .arrow (← p.parameters) u
    else
      use u
      assignmentFrom g (some (← p.group)) t.start
  | .word w =>
    if w = "yield" && (← around).suspended then
      let _ ← advance
      yieldRest g
    else if reservedWords.contains w then assignmentFrom g none t.start
    else if let some e ← asyncArrow? g then pure e
    else
      let next ← peekAt 1
      if next.kind = .mark "=>" && !next.afterLineEnd then bareArrow g first t.start .arrow
      else assignmentFrom g none t.start
  | _ => assignmentFrom g none t.start

end ScriptHost.Script.Grammar
