import ScriptHost.Script.Token.Basic

/-!
# Text literals

Text in quotes and the pieces of templates.  An octal escape is a fault in strict
code and in templates.

* `escape`: what a backslash and the characters behind it stand for;
* `quoted`, `templateToken`.
-/

namespace ScriptHost.Script

/-- What an escape stands for, what follows it, and the start of what is said of it
where it is not allowed. -/
structure Escape where
  units : Units
  rest : List Char
  refusal : Option String

/-- The unit that hexadecimal digits spell, in front of what follows them; otherwise the message. -/
def hexEscape (digits rest : List Char) (count : Nat) (message : String) : Except String Escape :=
  match hexCode? digits with
  | some n => if digits.length = count then .ok ⟨[UInt16.ofNat n], rest, none⟩ else .error message
  | none => .error message

/-- The code point of an escape behind its `u`, and what follows it. -/
def codeEscape : List Char → Except String (Nat × List Char)
  | '\x7b' :: rest =>
    match hexCode? (rest.takeWhile (· != '\x7d')), rest.dropWhile (· != '\x7d') with
    | some code, _ :: behind =>
      if code < 0x110000 then .ok (code, behind)
      else .error "Unicode codepoint must not be greater than 0x10FFFF in escape sequence"
    | _, _ => .error "malformed Unicode character escape sequence"
  | rest =>
    match hexEscape (rest.take 4) (rest.drop 4) 4 "invalid Unicode escape sequence" with
    | .ok e => .ok ((e.units.headD 0).toNat, e.rest)
    | .error message => .error message

/-- The character is a digit below eight. -/
def isOctal (c : Char) : Bool := '0' ≤ c && c ≤ '7'

/-- What a backslash and the characters behind it stand for, and what follows; a message if that is
malformed. -/
def escape : List Char → Except String Escape
  | 'n' :: rest => .ok ⟨[0x0A], rest, none⟩
  | 't' :: rest => .ok ⟨[0x09], rest, none⟩
  | 'b' :: rest => .ok ⟨[0x08], rest, none⟩
  | 'v' :: rest => .ok ⟨[0x0B], rest, none⟩
  | 'f' :: rest => .ok ⟨[0x0C], rest, none⟩
  | 'r' :: rest => .ok ⟨[0x0D], rest, none⟩
  | '\r' :: '\n' :: rest => .ok ⟨[], rest, none⟩
  | 'x' :: rest => hexEscape (rest.take 2) (rest.drop 2) 2 "invalid Hexadecimal escape sequence"
  | 'u' :: rest => (codeEscape rest).map fun (code, behind) => ⟨Text.unitsOfCode code, behind, none⟩
  | c :: rest =>
    if isLineEnd c then .ok ⟨[], rest, none⟩
    else if c = '0' && !(rest.head?.map Char.isDigit).getD false then .ok ⟨[0], rest, none⟩
    else if isOctal c then
      let more := rest.takeWhile isOctal
      let digits := c :: more.take (if c ≤ '3' then 2 else 1)
      .ok ⟨[UInt16.ofNat ((digitsIn? 8 digits).getD 0)], rest.drop (digits.length - 1),
        some "octal escape sequences are not allowed in "⟩
    else if c = '8' || c = '9' then
      .ok ⟨[UInt16.ofNat c.toNat], rest, some "\\8 and \\9 are not allowed in "⟩
    else .ok ⟨Text.unitsOfCode c.toNat, rest, none⟩
  | [] => .error "invalid escape sequence"

/-- A text literal without an end. -/
def openText : Fault := ⟨"I/O error: unterminated string literal", none⟩

/-- A text literal that is being read: its units so far, the last one first,
and what its escapes were. -/
structure Quoted where
  units : Units
  escaped : Bool
  octal : Bool

/-- A text literal behind its opening quote.  `fuel` bounds the number of characters. -/
def quoted (strict : Bool) (quote : Char) : (fuel : Nat) → List Char → Quoted → Except Fault Lexed
  | 0, _, _ => .error openText
  | fuel + 1, cs, q =>
    match cs with
    | [] => .error openText
    | '\\' :: rest =>
      match escape rest with
      | .error message => .error ⟨message, some cs⟩
      | .ok e =>
        match strict, e.refusal with
        | true, some refusal => .error ⟨refusal ++ "strict mode", some cs⟩
        | _, refusal => quoted strict quote fuel e.rest
          ⟨e.units.reverse ++ q.units, true, q.octal || refusal.isSome⟩
    | c :: rest =>
      if c = quote then .ok (.text q.units.reverse q.escaped q.octal, rest)
      else if c = '\n' || c = '\r' then .error openText
      else quoted strict quote fuel rest
        { q with units := (Text.unitsOfCode c.toNat).reverse ++ q.units }

/-- A template without an end. -/
def openTemplate : Fault := ⟨"I/O error: unterminated template literal", none⟩

/-- A piece of a template that is being read: its units and its raw units so far, the last ones
first, and the first fault in its escapes. -/
structure Piece where
  units : Units
  raw : Units
  fault : Option Fault

/-- The piece with one more escape, which starts at `cs`, and what follows. -/
def Piece.addEscape (p : Piece) (cs rest : List Char) : Piece × List Char :=
  let faulty (message : String) : Piece := { p with fault := p.fault.or (some ⟨message, some cs⟩) }
  let taken (p : Piece) (units : Units) (behind : List Char) : Piece × List Char :=
    let text := charUnits (rest.take (rest.length - behind.length))
    (⟨units.reverse ++ p.units, text.reverse ++ 0x5C :: p.raw, p.fault⟩, behind)
  match escape rest with
  | .ok ⟨units, behind, none⟩ => taken p units behind
  | .ok ⟨_, behind, some refusal⟩ => taken (faulty (refusal ++ "template literal")) [] behind
  | .error message => taken (faulty message) [] (rest.drop 1)

/-- A piece of a template up to its end or to the next expression, whose brace is taken: whether it
is the last one, and what follows.  `fuel` bounds the number of characters. -/
def templatePiece : (fuel : Nat) → List Char → Piece → Except Fault (Piece × Bool × List Char)
  | 0, _, _ => .error openTemplate
  | fuel + 1, cs, p =>
    match cs with
    | [] => .error openTemplate
    | '\x60' :: rest => .ok (p, true, rest)
    | '$' :: '\x7b' :: rest => .ok (p, false, rest)
    | '\\' :: rest =>
      let (p, behind) := p.addEscape cs rest
      templatePiece fuel behind p
    | '\r' :: '\n' :: rest => templatePiece fuel rest ⟨0x0A :: p.units, 0x0A :: p.raw, p.fault⟩
    | '\r' :: rest => templatePiece fuel rest ⟨0x0A :: p.units, 0x0A :: p.raw, p.fault⟩
    | c :: rest =>
      let units := (Text.unitsOfCode c.toNat).reverse
      templatePiece fuel rest ⟨units ++ p.units, units ++ p.raw, p.fault⟩

/-- The piece of a template at a place. -/
def templateToken (c : Cursor) (cs : List Char) : Except Fault Lexed := do
  let (p, last, rest) ← templatePiece (cs.length + 1) cs ⟨[], [], none⟩
  pure (.template p.units.reverse p.raw.reverse last (p.fault.map fun fault => fault.text c), rest)

end ScriptHost.Script
