import ScriptHost.Script.Code
import ScriptHost.Script.Letters
import ScriptHost.Script.Numeral

/-!
# Tokens

What a source is cut into, and where its pieces stand.

* `TokenKind`, `Token`;
* characters: `startsName`, `continuesName`, `isBlank`, `isLineEnd`;
* positions: `Cursor`, `Cursor.advance`;
* what is wrong with a piece of source: `Fault`, `Fault.text`.
-/

namespace ScriptHost.Script

/-- What a token is. -/
inductive TokenKind
  /-- A name or a reserved word. -/
  | word (text : String)
  /-- Punctuation. -/
  | mark (text : String)
  | number (x : Float)
  | bigint (n : Nat)
  /-- A text literal, perhaps written with escapes; `octal` says that one of them is octal. -/
  | text (units : Units) (escaped octal : Bool)
  /-- A piece of a template with its raw text; an expression stands behind every piece but the last.
  A fault in its escapes counts only where the text itself is wanted. -/
  | template (cooked raw : Units) (last : Bool) (fault : Option String)
  | regexp (body flags : Units)
  /-- The end of the source. -/
  | finish
  deriving DecidableEq, Inhabited

/-! ## Characters -/

/-- The character ends a line. -/
def isLineEnd (c : Char) : Bool :=
  c = '\n' || c = '\r' || c.toNat = 0x2028 || c.toNat = 0x2029

/-- The character separates tokens. -/
def isBlank (c : Char) : Bool := c.toNat < 0x10000 && isSpaceUnit (UInt16.ofNat c.toNat)

/-- The character may start a name. -/
def startsName (c : Char) : Bool :=
  c.isAlpha || c = '$' || c = '_' ||
    (0x80 ≤ c.toNat && startCodes.contains c.toNat)

/-- The character may stand in a name behind its start. -/
def continuesName (c : Char) : Bool :=
  startsName c || c.isDigit || c.toNat = 0x200C || c.toNat = 0x200D ||
    (0x80 ≤ c.toNat && innerCodes.contains c.toNat)

/-! ## Positions -/

/-- A place in the source. -/
structure Cursor where
  rest : List Char
  line : Nat
  column : Nat
  offset : Nat
  deriving Inhabited

namespace Cursor

/-- The start of a source. -/
def start (source : List Char) : Cursor := ⟨source, 1, 1, 0⟩

def position (c : Cursor) : Position := ⟨c.line, c.column⟩

/-- The place behind the next `n` characters. -/
def advance : (n : Nat) → Cursor → Cursor
  | 0, c => c
  | n + 1, c =>
    match c.rest with
    | [] => c
    | ch :: rest =>
      let pairFollows := ch = '\r' && rest.head? = some '\n'
      if isLineEnd ch && !pairFollows then advance n ⟨rest, c.line + 1, 1, c.offset + 1⟩
      else advance n ⟨rest, c.line, c.column + 1, c.offset + 1⟩

/-- The place at which `rest` is what follows. -/
def advanceTo (c : Cursor) (rest : List Char) : Cursor :=
  c.advance (c.rest.length - rest.length)

end Cursor

/-- A token with its place. -/
structure Token where
  kind : TokenKind
  place : Cursor
  /-- The place behind it. -/
  behind : Cursor
  /-- Where a line ends between the token before and this one. -/
  lineEnd : Option Position
  deriving Inhabited

namespace Token

/-- Where it starts. -/
def start (t : Token) : Position := t.place.position

/-- Where it ends. -/
def stop (t : Token) : Position := t.behind.position

/-- A line ends between this token and the one before. -/
def afterLineEnd (t : Token) : Bool := t.lineEnd.isSome

end Token

/-- A message about a position. -/
def messageAt (message : String) (pos : Position) : String :=
  let l := pos.line
  let k := pos.column
  message ++ s!" at line {l}, col {k}"

/-! ## Faults -/

/-- Why no token could be read, and what follows the place that this is about, if there is one. -/
structure Fault where
  message : String
  rest : Option (List Char)

/-- The message of a fault met at a place. -/
def Fault.text (fault : Fault) (c : Cursor) : String :=
  match fault.rest with
  | none => fault.message
  | some rest => messageAt fault.message (c.advanceTo rest).position

/-- A token that has been cut off the source. -/
abbrev Lexed := TokenKind × List Char

/-- The code point that hexadecimal digits spell. -/
def hexCode? (cs : List Char) : Option Nat := digitsIn? 16 cs

/-- How a token is named in messages. -/
def TokenKind.spelling : TokenKind → String
  | .word w => w
  | .mark m => m
  | .number x => String.ofList (plainNumeral x)
  | .bigint n => toString n ++ "n"
  | .text units _ _ => String.ofList (unitChars units)
  | .template _ raw _ _ => String.ofList (unitChars raw)
  | .regexp body flags =>
    "/" ++ String.ofList (unitChars body) ++ "/" ++ String.ofList (unitChars flags)
  | .finish => "end of file"

end ScriptHost.Script
