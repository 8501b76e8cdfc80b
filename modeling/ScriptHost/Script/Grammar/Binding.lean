import ScriptHost.Script.Grammar.Basic

/-!
# Patterns and member names

The left-hand sides of bindings and the names of members.  A pattern that declares names is read as
such; one that is assigned to is read as an expression first,
and `Expr.toPattern?` turns it into what it matches.

* `memberName`, `bindingPattern`;
* `Expr.toPattern?`, `Expr.covers`;
* `targetPattern`, `targetPlace`: what stands before an assignment mark.
-/

namespace ScriptHost.Script

/-! ## Expressions as patterns -/

mutual

/-- The pattern that an expression spells. -/
def Expr.toPattern? (strict : Bool) : Expr → Option Pattern
  | .read (.name id) => if strict && Parse.isRestricted id then none else some (.place (.name id))
  | .read place => some (.place place)
  | .array items false => (itemsToSlots? strict items).map .array
  | .object members => membersToPattern? strict members
  | .assign _ place value => some (.default (.place place) value)
  | .assignPattern pattern value => some (.default pattern value)
  | _ => none

/-- The elements of the array pattern that items spell. -/
def itemsToSlots? (strict : Bool) : List Item → Option (List Slot)
  | [] => some []
  | .hole :: rest => (itemsToSlots? strict rest).map (.hole :: ·)
  | .value e :: rest => do
    let pattern ← e.toPattern? strict
    let others ← itemsToSlots? strict rest
    some (.item pattern :: others)
  | [.spread e] => do
    match ← e.toPattern? strict with
    | .default .. => none
    | pattern => some [.rest pattern]
  | .spread _ :: _ => none

/-- The object pattern that members spell. -/
def membersToPattern? (strict : Bool) : List Member → Option Pattern
  | [] => some (.object [] none)
  | .value name e :: rest => do
    let pattern ← e.toPattern? strict
    addField (.mk name pattern) (← membersToPattern? strict rest)
  | .prototype e :: rest => do
    let pattern ← e.toPattern? strict
    addField (.mk (.fixed (Text.units "__proto__")) pattern) (← membersToPattern? strict rest)
  | .cover name e :: rest => do
    if strict && Parse.isRestricted name then none
    addField (.mk (.fixed name) (.default (.place (.name name)) (e.named name)))
      (← membersToPattern? strict rest)
  | [.spread (.read place)] => some (.object [] (some (.place place)))
  | .spread _ :: _ => none
  | .method .. :: _ => none
where
  /-- An object pattern with one more member at the front. -/
  addField (field : Field) : Pattern → Option Pattern
    | .object fields rest => some (.object (field :: fields) rest)
    | _ => none

end

mutual

/-- The members of a literal that only a pattern may have. -/
def Expr.covers : Expr → Nat
  | .array items _ => itemCovers items
  | .object members => memberCovers members
  | _ => 0

/-- The members that only a pattern may have in the items of a literal. -/
def itemCovers : List Item → Nat
  | [] => 0
  | .hole :: rest => itemCovers rest
  | .value e :: rest | .spread e :: rest => e.covers + itemCovers rest

/-- The members that only a pattern may have among members. -/
def memberCovers : List Member → Nat
  | [] => 0
  | .cover _ _ :: rest => 1 + memberCovers rest
  | .value _ e :: rest | .prototype e :: rest => e.covers + memberCovers rest
  | _ :: rest => memberCovers rest

end

namespace Grammar

open Parse

variable (g : Grammar)

/-- An expression taken as a pattern, if it spells one. -/
def asPattern? (e : Expr) : Parse (Option Pattern) := do
  let pattern := e.toPattern? (← isStrict)
  if pattern.isSome then modify fun s => { s with covers := s.covers - e.covers }
  pure pattern

/-- The message for what cannot be assigned to. -/
def badTarget : String := "Invalid left-hand side in assignment"

/-- The place that an expression reads, which is to be assigned to;
`pos` is where a message about it points. -/
def targetPlace (pos : Position) (e : Expr) : Parse Place := do
  match e.bare with
  | .read (.name id) =>
    if (← isStrict) && isRestricted id then failAt badTarget pos else pure (.name id)
  | .read place => pure place
  | _ => failAt badTarget pos

/-! ## Members and patterns -/

/-- An expression with commas behind its first part.  A comma before a closing parenthesis or a rest
parameter is left. -/
def expressionFrom : (fuel : Nat) → Expr → Parse Expr
  | 0, e => pure e
  | fuel + 1, e => do
    if ← atMark "," then
      let next ← peekSecond
      if next = .finish then abruptEnd
      if next = .mark ")" || next = .mark "..." then pure e
      else
        let _ ← advance
        expressionFrom fuel (.sequence e (← g.assignment))
    else pure e

/-- An expression. -/
def expression : Parse Expr := do
  let first ← g.assignment
  expressionFrom g (← charsLeft) first

/-- The name of a member. -/
def memberName : Parse MemberName := do
  let t ← peek
  match t.kind with
  | .word w =>
    let _ ← advance
    pure (.fixed (wordUnits w))
  | .text units _ _ =>
    let _ ← advance
    pure (.fixed units)
  | .number x =>
    let _ ← advance
    pure (.computed (.literal (.number x)))
  | .bigint n =>
    let _ ← advance
    pure (.computed (.literal (.bigint n)))
  | .mark "[" =>
    let _ ← advance
    let e ← allowingIn g.assignment
    let _ ← expectMark "]" "expected token ']'"
    pure (.computed e)
  | _ => expected ["property name"] t "property name"

/-- The value behind an assignment mark, if one is ahead. -/
def initializer? : Parse (Option Expr) := do
  if ← eatMark "=" then some <$> g.assignment else pure none

/-- A pattern with the value that stands in for a missing one, if one follows. -/
def withDefault (pattern : Pattern) : Parse Pattern := do
  match ← allowingIn (initializer? g) with
  | none => pure pattern
  | some e =>
    match pattern with
    | .place (.name id) => pure (.default pattern (e.named id))
    | _ => pure (.default pattern e)

/-- The elements of an array pattern behind its bracket. -/
def patternItems (element : Parse Pattern) : (fuel : Nat) → List Slot → Parse (List Slot)
  | 0, done => pure done.reverse
  | fuel + 1, done => do
    if ← eatMark "]" then pure done.reverse
    else if ← eatMark "," then patternItems element fuel (.hole :: done)
    else if ← eatMark "..." then
      let rest ← element
      let _ ← expectMark "]" "array binding pattern"
      pure (.rest rest :: done).reverse
    else
      let item ← withDefault g (← element)
      if !(← atMark "]") then
        let _ ← expectMark "," "array binding pattern"
      patternItems element fuel (.item item :: done)

/-- A member of an object pattern. -/
def patternField (element : Parse Pattern) : Parse Field := do
  let t ← peek
  let isRenamed : Bool ← match t.kind with
    | .word _ => do pure (decide ((← peekSecond) = .mark ":"))
    | .text .. | .number _ | .bigint _ | .mark "[" => pure true
    | _ => pure false
  if isRenamed then
    let name ← memberName g
    let _ ← expectMark ":" "object binding pattern"
    pure (.mk name (← withDefault g (← element)))
  else
    let id ← bindingName
    pure (.mk (.fixed id) (← withDefault g (.place (.name id))))

/-- The members of an object pattern behind its brace, and the pattern for the rest. -/
def patternFields (element : Parse Pattern) :
    (fuel : Nat) → List Field → Parse (List Field × Option Pattern)
  | 0, done => pure (done.reverse, none)
  | fuel + 1, done => do
    if ← eatMark "\x7d" then pure (done.reverse, none)
    else if ← eatMark "..." then
      let rest ← bindingName
      let _ ← expectMark "\x7d" "object binding pattern"
      pure (done.reverse, some (.place (.name rest)))
    else
      let field ← patternField g element
      if !(← atMark "\x7d") then
        let _ ← expectMark "," "object binding pattern"
      patternFields element fuel (field :: done)

/-- A pattern that declares names and nests at most `depth` deep. -/
def patternWithin : (depth : Nat) → Parse Pattern
  | 0 => do pure (.place (.name (← bindingName)))
  | depth + 1 => do
    let bound ← charsLeft
    if ← eatMark "[" then
      let items ← patternItems g (patternWithin depth) bound []
      pure (.array items)
    else if ← eatMark "\x7b" then
      let (fields, rest) ← patternFields g (patternWithin depth) bound []
      pure (.object fields rest)
    else do pure (.place (.name (← bindingName)))

/-- A pattern that declares names. -/
def bindingPattern : Parse Pattern := do patternWithin g (← charsLeft)

end Grammar

end ScriptHost.Script
