import ScriptHost.Script.Token.Scan

/-!
# Data in text

Data is written in the notation of literals: numbers, quoted text,
lists in brackets and members in braces.

* `Data`, and what can be wrong with its text: `DataFault`, `DataFault.message`;
* reading: `readNumber`, `readQuoted`, `readData`, and a whole text with `Data.ofText`.

A fault is about a place, which is counted in bytes; a reader that looks at a character without
taking it places the fault behind that character's first byte.
-/

namespace ScriptHost.Script

/-- Data that has been read. -/
inductive Data
  | null
  | boolean (b : Bool)
  | number (x : Float)
  | text (units : Units)
  | array (items : List Data)
  | object (members : List (Units × Data))

/-- What is wrong with the text of data. -/
inductive DataFault
  | endInList
  | endInObject
  | endInText
  | endInValue
  | noColon
  | noListEnd
  | noObjectEnd
  | noWord
  | noValue
  | badEscape
  | badNumber
  | outOfRange
  | controlCharacter
  | keyNotText
  | loneHalf
  | shortEscape
  | trailingComma
  | trailingText
  | tooDeep
  deriving DecidableEq, Repr

/-- What a fault is called. -/
def DataFault.message : DataFault → String
  | endInList => "EOF while parsing a list"
  | endInObject => "EOF while parsing an object"
  | endInText => "EOF while parsing a string"
  | endInValue => "EOF while parsing a value"
  | noColon => "expected \x60:\x60"
  | noListEnd => "expected \x60,\x60 or \x60]\x60"
  | noObjectEnd => "expected \x60,\x60 or \x60\x7d\x60"
  | noWord => "expected ident"
  | noValue => "expected value"
  | badEscape => "invalid escape"
  | badNumber => "invalid number"
  | outOfRange => "number out of range"
  | controlCharacter => "control character (\\u0000-\\u001F) found while parsing a string"
  | keyNotText => "key must be a string"
  | loneHalf => "lone leading surrogate in hex escape"
  | shortEscape => "unexpected end of hex escape"
  | trailingComma => "trailing comma"
  | trailingText => "trailing characters"
  | tooDeep => "recursion limit exceeded"

namespace Data

/-- A fault, what follows the place that it is about, and how many bytes of that
have been looked at. -/
structure Failure where
  fault : DataFault
  rest : List Char
  ahead : Nat

/-- Fails in front of what follows. -/
def failHere {α : Type} (fault : DataFault) (rest : List Char) : Except Failure (α × List Char) :=
  .error ⟨fault, rest, 0⟩

/-- Fails at the next character, or at the end with a fault of its own. -/
def failAhead {α : Type} (atEnd fault : DataFault) (rest : List Char) :
    Except Failure (α × List Char) :=
  match rest with
  | [] => .error ⟨atEnd, [], 0⟩
  | rest => .error ⟨fault, rest, 1⟩

/-- Skips the white space between data. -/
def skipSpace (cs : List Char) : List Char :=
  cs.dropWhile fun c => c = ' ' || c = '\n' || c = '\r' || c = '\t'

/-- The number of bytes of characters. -/
def byteCount (cs : List Char) : Nat := cs.foldl (fun n c => n + c.utf8Size) 0

/-! ## Quoted text -/

/-- The unit that the next four bytes spell. -/
def readHex (cs : List Char) : Except Failure (Nat × List Char) :=
  if byteCount (cs.take 4) < 4 then failHere .endInText []
  else
    match hexCode? (cs.take 4) with
    | some code => .ok (code, cs.drop 4)
    | none => .error ⟨.badEscape, cs, 4⟩

/-- The second half of a pair, whose first half is `high`. -/
def readLowHalf (high : Nat) (cs : List Char) : Except Failure (Units × List Char) :=
  match cs with
  | '\\' :: 'u' :: rest => do
    let (low, behind) ← readHex rest
    if low < 0xDC00 || 0xDFFF < low then failHere .loneHalf behind
    else .ok ([UInt16.ofNat high, UInt16.ofNat low], behind)
  | '\\' :: rest => failAhead .endInText .shortEscape rest
  | rest => failAhead .endInText .shortEscape rest

/-- What an escape behind its backslash stands for. -/
def readEscape (cs : List Char) : Except Failure (Units × List Char) :=
  let plain (u : UInt16) : Except Failure (Units × List Char) := .ok ([u], cs.drop 1)
  match cs with
  | [] => failHere .endInText []
  | '"' :: _ => plain 0x22
  | '\\' :: _ => plain 0x5C
  | '/' :: _ => plain 0x2F
  | 'b' :: _ => plain 0x08
  | 'f' :: _ => plain 0x0C
  | 'n' :: _ => plain 0x0A
  | 'r' :: _ => plain 0x0D
  | 't' :: _ => plain 0x09
  | 'u' :: rest => do
    let (code, behind) ← readHex rest
    if 0xDC00 ≤ code && code ≤ 0xDFFF then failHere .loneHalf behind
    else if 0xD800 ≤ code && code ≤ 0xDBFF then readLowHalf code behind
    else .ok ([UInt16.ofNat code], behind)
  | _ => failAhead .endInText .badEscape cs

/-- Text behind its opening quote; `fuel` bounds the number of characters. -/
def readQuoted : (fuel : Nat) → List Char → (done : Units) → Except Failure (Units × List Char)
  | 0, cs, _ => failHere .endInText cs
  | fuel + 1, cs, done =>
    match cs with
    | [] => failHere .endInText []
    | '"' :: rest => .ok (done.reverse, rest)
    | '\\' :: rest => do
      let (units, behind) ← readEscape rest
      readQuoted fuel behind (units.reverse ++ done)
    | c :: rest =>
      if c.toNat < 0x20 then failAhead .endInText .controlCharacter (c :: rest)
      else readQuoted fuel rest ((Text.unitsOfCode c.toNat).reverse ++ done)

/-! ## Numbers -/

/-- The digits at the front, and what follows them. -/
def digitsAhead (cs : List Char) : List Char × List Char :=
  (cs.takeWhile Char.isDigit, cs.dropWhile Char.isDigit)

/-- The digits of a whole number; it starts with a zero only if it is zero. -/
def readWhole (cs : List Char) : Except Failure (List Char × List Char) :=
  match cs with
  | '0' :: d :: rest =>
    if d.isDigit then failAhead .endInValue .badNumber (d :: rest) else .ok (['0'], d :: rest)
  | _ =>
    let (digits, rest) := digitsAhead cs
    if digits.isEmpty then failAhead .endInValue .badNumber cs else .ok (digits, rest)

/-- A point with the digits behind it, if there is one. -/
def readPart (cs : List Char) : Except Failure (List Char × List Char) :=
  match cs with
  | '.' :: rest =>
    let (digits, behind) := digitsAhead rest
    if digits.isEmpty then failAhead .endInValue .badNumber rest else .ok ('.' :: digits, behind)
  | _ => .ok ([], cs)

/-- An exponent, if there is one. -/
def readExponent (cs : List Char) : Except Failure (List Char × List Char) :=
  let signed (sign rest : List Char) : Except Failure (List Char × List Char) :=
    let (digits, behind) := digitsAhead rest
    if digits.isEmpty then failAhead .endInValue .badNumber rest
    else .ok ('e' :: sign ++ digits, behind)
  match cs with
  | 'e' :: '-' :: rest | 'E' :: '-' :: rest => signed ['-'] rest
  | 'e' :: '+' :: rest | 'E' :: '+' :: rest => signed [] rest
  | 'e' :: rest | 'E' :: rest => signed [] rest
  | _ => .ok ([], cs)

/-- A number. -/
def readNumber (cs : List Char) : Except Failure (Data × List Char) := do
  let (negative, cs) := match cs with
    | '-' :: rest => (true, rest)
    | cs => (false, cs)
  let (whole, rest) ← readWhole cs
  let (part, rest) ← readPart rest
  let (exponent, rest) ← readExponent rest
  match Decimal.readDecimal (whole ++ part ++ exponent) with
  | some x =>
    if x.isInf then failHere .outOfRange rest else .ok (.number (if negative then -x else x), rest)
  | none => failHere .badNumber rest

/-! ## Values -/

/-- A word whose first letter has been taken. -/
def readWord (value : Data) : (letters cs : List Char) → Except Failure (Data × List Char)
  | [], cs => .ok (value, cs)
  | letter :: letters, c :: rest =>
    if c = letter then readWord value letters rest else failAhead .endInValue .noWord (c :: rest)
  | _ :: _, [] => failHere .endInValue []

mutual

/-- The data at the front.  `depth` is how deep it may still nest, and `fuel` bounds its size. -/
def readData : (fuel depth : Nat) → List Char → Except Failure (Data × List Char)
  | 0, _, cs => failHere .noValue cs
  | fuel + 1, depth, cs =>
    match skipSpace cs with
    | '\x7b' :: rest =>
      if depth = 0 then failAhead .endInValue .tooDeep ('\x7b' :: rest)
      else
        match skipSpace rest with
        | '\x7d' :: rest => .ok (.object [], rest)
        | '"' :: rest => do
          let (members, rest) ← readMembers fuel (depth - 1) rest
          .ok (.object members, rest)
        | rest => failAhead .endInObject .keyNotText rest
    | '[' :: rest =>
      if depth = 0 then failAhead .endInValue .tooDeep ('[' :: rest)
      else
        match skipSpace rest with
        | ']' :: rest => .ok (.array [], rest)
        | [] => failHere .endInList []
        | rest => do
          let (items, rest) ← readItems fuel (depth - 1) rest
          .ok (.array items, rest)
    | '"' :: rest => do
      let (units, rest) ← readQuoted (rest.length + 1) rest []
      .ok (.text units, rest)
    | 't' :: rest => readWord (.boolean true) ['r', 'u', 'e'] rest
    | 'f' :: rest => readWord (.boolean false) ['a', 'l', 's', 'e'] rest
    | 'n' :: rest => readWord .null ['u', 'l', 'l'] rest
    | c :: rest =>
      if c = '-' || c.isDigit then readNumber (c :: rest)
      else failAhead .endInValue .noValue (c :: rest)
    | [] => failHere .endInValue []

/-- The items of an array up to its bracket. -/
def readItems : (fuel depth : Nat) → List Char → Except Failure (List Data × List Char)
  | 0, _, cs => failHere .noValue cs
  | fuel + 1, depth, cs => do
    let (item, rest) ← readData fuel depth cs
    match skipSpace rest with
    | ',' :: rest =>
      match skipSpace rest with
      | ']' :: rest => failAhead .endInValue .trailingComma (']' :: rest)
      | [] => failHere .endInValue []
      | rest => do
        let (items, rest) ← readItems fuel depth rest
        .ok (item :: items, rest)
    | ']' :: rest => .ok ([item], rest)
    | rest => failAhead .endInList .noListEnd rest

/-- The members of an object behind the quote of the first key, up to its brace. -/
def readMembers : (fuel depth : Nat) → List Char → Except Failure (List (Units × Data) × List Char)
  | 0, _, cs => failHere .noValue cs
  | fuel + 1, depth, cs => do
    let (key, rest) ← readQuoted (cs.length + 1) cs []
    match skipSpace rest with
    | ':' :: rest => do
      let (item, rest) ← readData fuel depth rest
      match skipSpace rest with
      | ',' :: rest =>
        match skipSpace rest with
        | '"' :: rest => do
          let (members, rest) ← readMembers fuel depth rest
          .ok ((key, item) :: members, rest)
        | '\x7d' :: rest => failAhead .endInValue .trailingComma ('\x7d' :: rest)
        | rest => failAhead .endInValue .keyNotText rest
      | '\x7d' :: rest => .ok ([(key, item)], rest)
      | rest => failAhead .endInObject .noObjectEnd rest
    | rest => failAhead .endInObject .noColon rest

end

/-- How deep data may nest. -/
def nestingLimit : Nat := 127

/-- The text of a failure: the fault, the line from one, and the bytes of that line before it. -/
def Failure.message (failure : Failure) (whole : List Char) : String :=
  let bytes := (String.ofList whole).toUTF8.toList
  let before := bytes.take (bytes.length - byteCount failure.rest + failure.ahead)
  let column := (before.reverse.takeWhile (· != 0x0A)).length
  let line := before.count 0x0A + 1
  failure.fault.message ++ s!" at line {line} column {column}"

/-- The data that a whole text holds, or what is wrong with it. -/
def ofText (cs : List Char) : Except String Data :=
  let read : Except Failure (Data × List Char) := do
    let (data, rest) ← readData (cs.length + 1) nestingLimit cs
    match skipSpace rest with
    | [] => .ok (data, [])
    | rest => failAhead .endInValue .trailingText rest
  match read with
  | .ok (data, _) => .ok data
  | .error failure => .error (failure.message cs)

end Data

end ScriptHost.Script
