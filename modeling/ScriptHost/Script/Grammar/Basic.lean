import ScriptHost.Script.Scoping
import ScriptHost.Script.Token.Scan

/-!
# Reading code

`Parse` reads code from tokens and fails with the message of a syntax error.  The four nonterminals
that refer to each other without bound are the fields of a `Grammar`; every other rule is a plain
function of a grammar, and the knot is tied by depth in `ScriptHost.Script.Grammar.Source`.

* tokens: `peek`, `advance`, `eatMark`, `expectMark`, `eatWord`, `semicolon`;
* failing: `expected`, `unexpected`, `failAt`;
* surroundings that end with a rule: `Surroundings`, `within`;
* loops: `charsLeft`, the bound for them.
-/

namespace ScriptHost.Script

/-- What jumps may lead to. -/
structure Jumps where
  /-- The labels of the statements around. -/
  labels : List Units
  /-- Those of the loops around. -/
  loopLabels : List Units
  /-- The labels right before the statement that is read next. -/
  pending : List Units
  inLoop : Bool
  inSwitch : Bool

/-- Nowhere to jump to. -/
def Jumps.none : Jumps := ⟨[], [], [], false, false⟩

/-- What surrounds the code that is read. -/
structure Surroundings where
  strict : Bool
  /-- A function can be left here. -/
  returns : Bool
  /-- The code is run piecemeal. -/
  suspended : Bool
  /-- The word `in` may be an operator. -/
  allowIn : Bool
  jumps : Jumps

/-- What a piece of code refers to. -/
structure Usage where
  /-- The names that it mentions itself and does not declare. -/
  direct : List Units
  /-- The names that functions in it refer to and neither they nor it declare. -/
  captured : List Units
  /-- It may evaluate source that refers to any name. -/
  evaluates : Bool
  /-- The slots for the names that it declares. -/
  slots : Nat
  usesSuper : Bool
  callsSuper : Bool
  usesTarget : Bool

namespace Usage

/-- The usage of no code. -/
def none : Usage := ⟨[], [], false, 0, false, false, false⟩

/-- The names of both lists, each once. -/
def unite (xs ys : List Units) : List Units := ys ++ xs.filter fun x => !ys.contains x

/-- The usage of two pieces that follow one another. -/
def join (u v : Usage) : Usage :=
  ⟨unite v.direct u.direct, unite v.captured u.captured, u.evaluates || v.evaluates,
    u.slots + v.slots,
    u.usesSuper || v.usesSuper, u.callsSuper || v.callsSuper, u.usesTarget || v.usesTarget⟩

/-- A name that the piece declares, given whether it is constant. -/
def declared (u : Usage) (name : Units) (constant : Bool) : Declared :=
  ⟨name, constant, u.evaluates || u.captured.contains name⟩

/-- The usage of a block that declares names. -/
def without (u : Usage) (names : List Units) : Usage :=
  let slots := (names.eraseDups.filter fun name => !(u.declared name false).shared).length
  { u with
    direct := u.direct.filter fun name => !names.contains name
    captured := u.captured.filter fun name => !names.contains name
    slots := u.slots + slots }

/-- The usage of a piece that makes a function with the usage `u`. -/
def ofInner (u : Usage) (isArrow : Bool) : Usage :=
  ⟨[], unite u.direct u.captured, u.evaluates, 0, isArrow && u.usesSuper, isArrow && u.callsSuper,
    isArrow && u.usesTarget⟩

end Usage

/-- Where the reading stands, and what surrounds it. -/
structure ParseState where
  /-- The place behind the token taken last. -/
  taken : Cursor
  /-- The tokens from there on that have been looked at. -/
  ahead : List Token
  source : Array Char
  around : Surroundings
  usage : Usage
  /-- The members read so far that only a pattern may have,
  less those that did become part of one. -/
  covers : Nat
  /-- The first jump or label of the current body that makes no sense. -/
  jumpFault : Option String

/-- A rule that reads an `α` or fails with a message. -/
abbrev Parse (α : Type) := StateT ParseState (Except String) α

/-- The rules that refer to each other without bound. -/
structure Grammar where
  /-- An expression without a comma. -/
  assignment : Parse Expr
  /-- What can be called or constructed. -/
  operand : Parse Expr
  statement : Parse Stmt
  /-- A statement or a declaration. -/
  item : Parse Stmt

namespace Parse

/-- Sixteen-bit units of a word. -/
def wordUnits (w : String) : Units := Text.units w

/-! ## Tokens -/

/-- The token behind those that have been looked at. -/
def lookFurther : Parse Token := do
  let s ← get
  let place := (s.ahead.getLast?.map (·.behind)).getD s.taken
  let t ← place.token s.around.strict
  set { s with ahead := s.ahead ++ [t] }
  pure t

/-- The token behind the `n` tokens ahead. -/
def peekAt : (n : Nat) → Parse Token
  | 0 => do
    match (← get).ahead with
    | t :: _ => pure t
    | [] => lookFurther
  | n + 1 => do
    let _ ← peekAt n
    match (← get).ahead[n + 1]? with
    | some t => pure t
    | none => lookFurther

/-- The token ahead. -/
def peek : Parse Token := peekAt 0

/-- The kind of the token behind the one ahead. -/
def peekSecond : Parse TokenKind := do pure (← peekAt 1).kind

/-- The token ahead has a kind, and the one behind it satisfies a test;
that one is looked at only then. -/
def atPair (first : TokenKind) (second : Token → Bool) : Parse Bool := do
  if (← peek).kind = first then pure (second (← peekAt 1)) else pure false

/-- A function that runs piecemeal is ahead, its first word included. -/
def atAsyncFunction : Parse Bool :=
  atPair (.word "async") fun next => next.kind = .word "function" && !next.afterLineEnd

/-- Takes the token ahead. -/
def advance : Parse Token := do
  let t ← peek
  modify fun s => { s with taken := t.behind, ahead := s.ahead.drop 1 }
  pure t

/-- Takes the token that is read at a place, whatever was thought to be there. -/
def takeAt (place : Cursor) (read : Cursor → Except String Token) : Parse Token := do
  let t ← read place
  modify fun s => { s with taken := t.behind, ahead := [] }
  pure t

/-- A bound for the number of steps that consume tokens. -/
def charsLeft : Parse Nat := do
  let s ← get
  pure (s.source.size + 1 - s.taken.offset)

/-! ## Failing -/

/-- Fails because the source ends. -/
def abruptEnd {α : Type} : Parse α := throw "abrupt end"

/-- Fails with a message about a place. -/
def failAt {α : Type} (message : String) (pos : Position) : Parse α := throw (messageAt message pos)

/-- Fails because of the token `t`. -/
def unexpected {α : Type} (t : Token) (context : String) : Parse α :=
  if t.kind = .finish then abruptEnd
  else failAt ("unexpected token '" ++ t.kind.spelling ++ "', " ++ context) t.start

/-- The tokens that were expected as messages give them. -/
def choiceText : List String → String
  | [] => ""
  | [one] => "token '" ++ one ++ "'"
  | first :: rest =>
    let rec others : List String → String
      | [] => ""
      | [last] => " or '" ++ last ++ "'"
      | next :: more => ", '" ++ next ++ "'" ++ others more
    "one of '" ++ first ++ "'" ++ others rest

/-- Fails because one of `wanted` should stand where `t` does. -/
def expected {α : Type} (wanted : List String) (t : Token) (context : String) : Parse α :=
  if t.kind = .finish then abruptEnd
  else
    failAt ("expected " ++ choiceText wanted ++ ", got '" ++ t.kind.spelling ++ "' in " ++ context)
      t.start

/-- The position of the token ahead, which is not the end. -/
def startAhead : Parse Position := do
  let t ← peek
  if t.kind = .finish then abruptEnd
  pure t.start

/-! ## Marks and words -/

/-- The mark `m` is ahead. -/
def atMark (m : String) : Parse Bool := do pure ((← peek).kind = .mark m)

/-- The word `w` is ahead. -/
def atWord (w : String) : Parse Bool := do pure ((← peek).kind = .word w)

/-- Takes the mark `m` if it is ahead. -/
def eatMark (m : String) : Parse Bool := do
  if ← atMark m then
    let _ ← advance
    pure true
  else pure false

/-- Takes the word `w` if it is ahead. -/
def eatWord (w : String) : Parse Bool := do
  if ← atWord w then
    let _ ← advance
    pure true
  else pure false

/-- Takes the mark `m`, which has to be ahead. -/
def expectMark (m context : String) : Parse Token := do
  let t ← peek
  if t.kind = .mark m then advance else expected [m] t context

/-- Takes the word `w`, which has to be ahead. -/
def expectWord (w context : String) : Parse Token := do
  let t ← peek
  if t.kind = .word w then advance else expected [w] t context

/-- A statement may end here. -/
def atStatementEnd : Parse Bool := do
  let t ← peek
  pure (t.kind = .mark ";" || t.kind = .finish || t.kind = .mark "\x7d" || t.afterLineEnd)

/-- The end of a statement: a semicolon, or a place where it may be left out. -/
def semicolon (context : String) : Parse Unit := do
  if ← atStatementEnd then
    let t ← peek
    if t.kind = .mark ";" && !t.afterLineEnd then
      let _ ← advance
  else expected [";"] (← peek) context

/-- The characters from `first` to the end of the last token. -/
def sourceFrom (first : Nat) : Parse Units := do
  let s ← get
  pure (charUnits (s.source.extract first s.taken.offset).toList)

/-! ## Surroundings -/

/-- What surrounds the code. -/
def around : Parse Surroundings := do pure (← get).around

/-- The code is strict. -/
def isStrict : Parse Bool := do pure (← get).around.strict

/-- Reads with the surroundings changed, and restores them. -/
def within {α : Type} (f : Surroundings → Surroundings) (p : Parse α) : Parse α := do
  let outer ← around
  modify fun s => { s with around := f outer }
  let a ← p
  modify fun s => { s with around := outer }
  pure a

/-- Reads inside brackets, where `in` is an operator again. -/
def allowingIn {α : Type} (p : Parse α) : Parse α := within (fun s => { s with allowIn := true }) p

/-- From here on the code is strict. -/
def becomeStrict : Parse Unit :=
  modify fun s => { s with around := { s.around with strict := true } }

/-! ## Usage -/

/-- Adds to what the code refers to. -/
def use (u : Usage) : Parse Unit := modify fun s => { s with usage := s.usage.join u }

/-- Notes that a name is mentioned. -/
def mention (name : Units) : Parse Unit := use { Usage.none with direct := [name] }

/-- Reads a piece and answers also with what it refers to, which is left for the caller to `use`. -/
def recording {α : Type} (p : Parse α) : Parse (α × Usage) := do
  let outer := (← get).usage
  modify fun s => { s with usage := Usage.none }
  let a ← p
  let inner := (← get).usage
  modify fun s => { s with usage := outer }
  pure (a, inner)

/-- Fails if the pieces read so far hold a jump that makes no sense. -/
def checkJumps : Parse Unit := do
  match (← get).jumpFault with
  | some message => failAt message ⟨1, 1⟩
  | none => pure ()

/-- Notes a jump or label that makes no sense. -/
def noteJump (message : String) : Parse Unit :=
  modify fun s => { s with jumpFault := s.jumpFault.or (some message) }

/-! ## Names -/

/-- Words that are no names in strict code. -/
def strictWords : List String :=
  ["implements", "interface", "let", "package", "private", "protected", "public", "static", "yield"]

/-- The name belongs to something that strict code may not rename. -/
def isRestricted (name : Units) : Bool := name = Text.units "eval" || name = Text.units "arguments"

/-- A name. -/
def identifier : Parse Units := do
  let t ← peek
  match t.kind with
  | .word w =>
    if reservedWords.contains w then expected ["identifier"] t "identifier parsing"
    if (← isStrict) && strictWords.contains w then
      unexpected t "strict reserved word cannot be an identifier"
    let _ ← advance
    pure (wordUnits w)
  | _ => expected ["identifier"] t "identifier parsing"

/-- A name that is declared. -/
def bindingName : Parse Units := do
  let t ← peek
  let name ← identifier
  if (← isStrict) && isRestricted name then
    failAt ("unexpected identifier '" ++ t.kind.spelling ++ "' in strict mode") t.start
  pure name

/-- A name that is referred to. -/
def reference : Parse Units := do
  let name ← identifier
  mention name
  pure name

end Parse

end ScriptHost.Script
