import ScriptHost.Script.Grammar.Statement

/-!
# Reading a source

`readScript` reads a whole source, and `readBytes` one that is given as bytes (`sourceChars`);
`readEvaluated` reads one that runs inside other code, and `readFunction` the parameters and the
body of a function.  The rules of the grammar refer to each other through `Grammar.ofDepth depth`,
whose rules nest at most `depth` deep; a nesting needs a character of its own, so the number of
characters bounds it.
-/

namespace ScriptHost.Script

/-- A whole script. -/
structure ScriptCode where
  strict : Bool
  body : List Stmt
  /-- The names that it declares by `var` or as functions. -/
  vars : List Units
  /-- The names that it declares otherwise. -/
  names : List Declared

/-- What code that runs inside other code may refer to. -/
structure Enclosing where
  strict : Bool
  /-- There is something that may have been constructed. -/
  hasTarget : Bool
  /-- There is an object whose prototype `super` refers to. -/
  hasHome : Bool

namespace Grammar

open Parse

/-- The grammar whose rules nest at most `depth` deep. -/
def ofDepth : (depth : Nat) → Grammar
  | 0 =>
    let tooDeep := "nested too deeply"
    ⟨throw tooDeep, throw tooDeep, throw tooDeep, throw tooDeep⟩
  | depth + 1 =>
    ⟨fun s => assignmentRule (ofDepth depth) s, fun s => operandRule (ofDepth depth) s,
      fun s => statementRule (ofDepth depth) s, fun s => itemRule (ofDepth depth) s⟩

/-- A whole script.  Inside other code it may refer to more.
`own` says that its names can be those of its frame. -/
def script (g : Grammar) (own : Bool) (enclosing : Option Enclosing) : Parse ScriptCode := do
  let (body, asksStrict) ← statements g [] (← charsLeft) ⟨true, false, none⟩ []
  let u := (← get).usage
  let nowhere : Position := ⟨1, 1⟩
  match enclosing with
  | none =>
    if u.usesSuper || u.callsSuper then failAt "invalid super usage" nowhere
    if u.usesTarget then failAt "invalid new.target usage" nowhere
  | some e =>
    if u.usesTarget && !e.hasTarget then throw "invalid \x60new.target\x60 expression inside eval"
    if u.usesSuper && !e.hasHome then throw "invalid \x60super\x60 reference inside eval"
    if u.callsSuper then throw "invalid \x60super\x60 call inside eval"
  checkJumps
  if 0 < (← get).covers then failAt "invalid object literal in script statement list" nowhere
  checkBodyNames body
  let strict := asksStrict || enclosing.any (·.strict)
  let names := (blockNames body).map fun entry =>
    if own then u.declared entry.1 entry.2 else ⟨entry.1, entry.2, true⟩
  pure ⟨strict, body, varNames body, names⟩

end Grammar

/-- Reads a source by a rule, or answers with the message of a syntax error. -/
def readWith {α : Type} (rule : Grammar → Parse α) (strict : Bool) (source : List Char) :
    Except String α :=
  let start : ParseState :=
    { taken := Cursor.ofSource source
      ahead := []
      source := source.toArray
      around := ⟨strict, false, false, true, Jumps.none⟩
      usage := Usage.none
      covers := 0
      jumpFault := none }
  ((rule (Grammar.ofDepth (4 * source.length + 8))).run start).map (·.1)

/-- Reads a script, or answers with the message of a syntax error. -/
def readScript (source : List Char) : Except String ScriptCode :=
  readWith (Grammar.script · false none) false source

/-- Reads a source that runs on its own, but not as a script. -/
def readIndirect (source : List Char) : Except String ScriptCode :=
  readWith (Grammar.script · true none) false source

/-- Reads a source that runs inside other code. -/
def readEvaluated (enclosing : Enclosing) (source : List Char) : Except String ScriptCode :=
  readWith (Grammar.script · true (some enclosing)) enclosing.strict source

/-- Reads a function from the texts of its parameters and of its body. -/
def readFunction (kind : FunctionKind) (name : Units) (params body : List Char) :
    Except String FunctionCode := do
  let isSuspended (s : Surroundings) : Surroundings := Grammar.asBody kind s
  let labelled {α : Type} (what : String) (x : Except String α) : Except String α :=
    x.mapError fun message => "failed to parse function " ++ what ++ ": " ++ message
  let (p, u) ← labelled "parameters"
    (readWith (fun g => Parse.recording (Parse.within isSuspended (Grammar.parameters g)))
      false (params ++ [')']))
  let (b, v) ← labelled "body"
      (readWith (fun g => Parse.recording (Grammar.bodyStatements g kind)) false body)
  if b.asksStrict && !p.isSimple then
    throw "Illegal 'use strict' directive in function with non-simple parameter list"
  if b.asksStrict && (repeatedName? p.names).isSome then throw Grammar.repeatedParameter
  let own := (blockNames b.statements).map (·.1)
  match p.names.find? own.contains with
  | some name =>
    throw ("Redeclaration of formal parameter \x60" ++ String.ofList (unitChars name) ++ "\x60")
  | none => readWith (fun _ => Grammar.makeFunction name kind false none p b ⟨u, v⟩) false []

/-- The characters that spell a code point in a source; one that is no character is spelled as the
escape that stands for it in a text literal. -/
def codeSpelling (code : Nat) : List Char :=
  if code < 0xD800 ∨ (0xE000 ≤ code ∧ code < 0x110000) then [Char.ofNat code]
  else
    let digits := Nat.toDigits 16 code
    if code < 0xE000 then '\\' :: 'u' :: digits else "\\u\x7b".toList ++ digits ++ ['\x7d']

/-- How many bytes belong to a code point behind its first byte. -/
def followingCount (b : UInt8) : Nat :=
  if b < 0x80 then 0 else if b < 0xE0 then 1 else if b < 0xF0 then 2 else 3

/-- The payload of the first byte of a code point. -/
def leadingBits (b : UInt8) : Nat :=
  if b < 0x80 then b.toNat else if b < 0xF0 then b.toNat % 0x20 else b.toNat % 0x08

/-- The characters of a source given as bytes.  The first byte alone decides how many bytes belong
to a code point; of the others the low six bits count, and where the source has ended these are
zero.  So every list of bytes can be read, and well-formed UTF-8 as what it encodes. -/
def sourceChars : List UInt8 → List Char
  | [] => []
  | b :: rest =>
    let count := followingCount b
    let tail := rest.take count
    let bits := tail.foldl (fun n c => n * 0x40 + c.toNat % 0x40) (leadingBits b)
    codeSpelling (bits * Nat.pow 0x40 (count - tail.length)) ++ sourceChars (rest.drop count)
termination_by bytes => bytes.length
decreasing_by simp only [List.length_drop, List.length_cons]; omega

/-- Reads a script given as bytes, a byte order mark left aside. -/
def readBytes (bytes : List UInt8) : Except String ScriptCode :=
  let bytes := match bytes with
    | 0xEF :: 0xBB :: 0xBF :: rest => rest
    | bytes => bytes
  readScript (sourceChars bytes)

end ScriptHost.Script
