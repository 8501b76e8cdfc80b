import ScriptHost.Script.Regexp
import ScriptHost.Script.Token.Number
import ScriptHost.Script.Token.Text

/-!
# Reading tokens

A source is cut into tokens one at a time, because what a slash or a closing brace starts depends on
the code before it, and a number or a text may be refused in strict code.

* `Cursor.token`: the next token;
* `Cursor.regexp`: a regular expression from its slash on;
* `Cursor.template`: a template behind a closing brace.
-/

namespace ScriptHost.Script

/-! ## Blanks -/

/-- What follows a comment between `/*` and `*/`, and whether a line ended in it; nothing if it is
not closed. -/
def skipComment : List Char → (lineEnd : Bool) → Option (List Char × Bool)
  | [], _ => none
  | '*' :: '/' :: rest, lineEnd => some (rest, lineEnd)
  | c :: rest, lineEnd => skipComment rest (lineEnd || isLineEnd c)

/-- Skips white space and comments; the second answer is the place where the first line ended, if
one did.  `fuel` bounds the number of characters. -/
def skipBlanks : (fuel : Nat) → Cursor → Option Position → Except Fault (Cursor × Option Position)
  | 0, c, lineEnd => .ok (c, lineEnd)
  | fuel + 1, c, lineEnd =>
    let ended (b : Bool) : Option Position := lineEnd.or (if b then some c.position else none)
    match c.rest with
    | '/' :: '/' :: rest =>
      skipBlanks fuel (c.advanceTo (rest.dropWhile fun ch => !isLineEnd ch)) lineEnd
    | '/' :: '*' :: rest =>
      match skipComment rest false with
      | some (rest, b) => skipBlanks fuel (c.advanceTo rest) (ended b)
      | none => .error ⟨"unterminated multiline comment", some []⟩
    | ch :: _ =>
      if isBlank ch then skipBlanks fuel (c.advance 1) (ended (isLineEnd ch)) else .ok (c, lineEnd)
    | [] => .ok (c, lineEnd)

/-! ## Words and marks -/

/-- Words that are no names. -/
def reservedWords : List String :=
  ["break", "case", "catch", "class", "const", "continue", "debugger", "default", "delete", "do",
    "else", "enum", "export", "extends", "false", "finally", "for", "function", "if",
    "import", "in",
    "instanceof", "new", "null", "return", "super", "switch", "this", "throw", "true", "try",
    "typeof", "var", "void", "while", "with"]

/-- The characters of a name, whether escapes stand for some of them, and what follows; `done` holds
those before, the last one first.  `fuel` bounds their number. -/
def nameChars : (fuel : Nat) → List Char → (done : List Char) → (escaped : Bool) →
    Except Fault (List Char × Bool × List Char)
  | 0, cs, done, escaped => .ok (done.reverse, escaped, cs)
  | fuel + 1, cs, done, escaped =>
    match cs with
    | '\\' :: 'u' :: rest =>
      match codeEscape rest with
      | .error message => .error ⟨message, some cs⟩
      | .ok (code, behind) =>
        let c := Char.ofNat code
        if done.isEmpty && !startsName c then .error ⟨"invalid identifier start", some cs⟩
        else if !continuesName c then .error ⟨"invalid identifier part", some cs⟩
        else nameChars fuel behind (c :: done) true
    | c :: rest =>
      if continuesName c then nameChars fuel rest (c :: done) escaped
      else .ok (done.reverse, escaped, cs)
    | [] => .ok (done.reverse, escaped, cs)

/-- The word at the front. -/
def wordToken (cs : List Char) : Except Fault Lexed := do
  let (name, escaped, rest) ← nameChars (cs.length + 1) cs [] false
  let word := String.ofList name
  if escaped && reservedWords.contains word then
    throw ⟨"Keyword must not contain escaped characters", some cs⟩
  pure (.word word, rest)

/-- Marks, the longer ones first. -/
def marks : List String :=
  [">>>=", "...", "===", "!==", ">>>", "<<=", ">>=", "**=", "&&=", "||=", "??=", "=>", "==", "!=",
    "<=", ">=", "&&", "||", "??", "?.", "++", "--", "+=", "-=", "*=", "/=", "%=", "&=", "|=", "^=",
    "<<", ">>", "**", "\x7b", "\x7d", "(", ")", "[", "]", ";", ",", "<", ">", "+", "-", "*", "/",
    "%", "&", "|", "^", "!", "~", "?", ":", "=", "."]

/-- The mark at the front and what follows it. -/
def mark? (cs : List Char) : Option (String × List Char) :=
  match cs with
  | '?' :: '.' :: d :: _ => if d.isDigit then some ("?", cs.drop 1) else some ("?.", cs.drop 2)
  | cs => (marks.find? fun m => m.toList.isPrefixOf cs).map fun m => (m, cs.drop m.length)

/-- The mark at the front of a place. -/
def markToken (c : Cursor) : Except Fault Lexed :=
  match c.rest with
  | '.' :: '.' :: rest =>
    if rest.head? = some '.' then .ok (.mark "...", rest.drop 1)
    else .error ⟨"Expecting Token '.' as part of spread", some rest⟩
  | '#' :: _ => .error ⟨"Abrupt end: Expecting private identifier", some c.rest⟩
  | cs =>
    match mark? cs with
    | some (m, rest) => .ok (.mark m, rest)
    | none =>
      let l := c.line
      let k := c.column
      let shown := String.ofList (cs.take 1)
      .error ⟨s!"unexpected '{shown}' at line {l}, column {k}", some cs⟩

/-! ## Regular expressions -/

/-- The body of a regular expression behind its opening slash,
and what follows its closing slash. -/
def regexpBody :
    List Char → (inClass : Bool) → (done : List Char) → Except Fault (List Char × List Char)
  | [], _, _ => .error ⟨"abrupt end on regular expression", some []⟩
  | '\\' :: c :: rest, inClass, done =>
    if isLineEnd c then .error ⟨"new lines are not allowed in regular expressions", some rest⟩
    else regexpBody rest inClass (c :: '\\' :: done)
  | c :: rest, inClass, done =>
    if isLineEnd c then .error ⟨"new lines are not allowed in regular expressions", some rest⟩
    else if c = '/' && !inClass then .ok (done.reverse, rest)
    else regexpBody rest (if c = '[' then true else if c = ']' then false else inClass) (c :: done)

/-- The regular expression at the front, its slash included. -/
def regexpToken (cs : List Char) : Except Fault Lexed := do
  let (body, rest) ← regexpBody (cs.drop 1) false []
  let flags := rest.takeWhile Char.isAlpha
  match Regexp.flagFault? flags with
  | some message => throw ⟨message, some cs⟩
  | none => pure ()
  match Regexp.fault? body flags with
  | some message => throw ⟨"Invalid regular expression literal: " ++ message, some cs⟩
  | none => pure ()
  pure (.regexp (charUnits body) (charUnits flags), rest.drop flags.length)

/-! ## Tokens -/

namespace Cursor

/-- The token that something reads at a place, or its message. -/
def readWith (c : Cursor) (lineEnd : Option Position) (lexed : Except Fault Lexed) :
    Except String Token :=
  match lexed with
  | .error fault => .error (fault.text c)
  | .ok (kind, rest) =>
    let behind := c.advanceTo rest
    .ok ⟨kind, c, behind, lineEnd⟩

/-- The token at a place that is not blank. -/
def tokenHere (strict : Bool) (c : Cursor) : Except Fault Lexed :=
  match c.rest with
  | [] => .ok (.finish, [])
  | ch :: rest =>
    if startsName ch || (ch = '\\' && rest.head? = some 'u') then wordToken c.rest
    else if ch.isDigit || (ch = '.' && (rest.head?.map Char.isDigit).getD false) then
      numberToken strict c.rest
    else if ch = '"' || ch = '\'' then quoted strict ch (c.rest.length + 1) rest ⟨[], false, false⟩
    else if ch = '\x60' then templateToken c rest
    else markToken c

/-- The next token. -/
def token (strict : Bool) (c : Cursor) : Except String Token :=
  match skipBlanks (c.rest.length + 1) c none with
  | .error fault => .error (fault.text c)
  | .ok (c, lineEnd) => c.readWith lineEnd (c.tokenHere strict)

/-- The regular expression at a place. -/
def regexp (c : Cursor) : Except String Token := c.readWith none (regexpToken c.rest)

/-- The piece of a template at a place. -/
def template (c : Cursor) : Except String Token := c.readWith none (templateToken c c.rest)

/-- The start of a source behind its first line, if that starts with `#!`. -/
def ofSource (source : List Char) : Cursor :=
  let c := start source
  match source with
  | '#' :: '!' :: rest => c.advanceTo (rest.dropWhile fun ch => !isLineEnd ch)
  | _ => c

end Cursor

end ScriptHost.Script
