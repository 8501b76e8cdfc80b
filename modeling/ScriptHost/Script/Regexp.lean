import ScriptHost.Script.Numeral

/-!
# Regular expressions

Which regular expressions are well formed.  They are never matched, so their text is checked and not
kept in any other form.

* `Regexp.flagFault?`: what is wrong with the flags;
* `Regexp.fault?`: what is wrong with the body.
-/

namespace ScriptHost.Script.Regexp

/-- What is wrong with flags. -/
def flagFault? : List Char → Option String
  | [] => none
  | cs =>
    let rec go (seen : List Char) : List Char → Option String
      | [] => none
      | c :: rest =>
        if seen.contains c then some ("repeated regular expression flag " ++ String.singleton c)
        else if "dgimsuvy".toList.contains c then go (c :: seen) rest
        else some ("invalid regular expression flag " ++ String.singleton c)
    go [] cs

/-- The least and the greatest number of repetitions between braces, behind the opening one; no
greatest number if none is given. -/
def braces? (cs : List Char) : Option (Nat × Option Nat × List Char) := do
  let digits := cs.takeWhile Char.isDigit
  let least ← digitsIn? 10 digits
  match cs.drop digits.length with
  | '\x7d' :: rest => some (least, some least, rest)
  | ',' :: '\x7d' :: rest => some (least, none, rest)
  | ',' :: rest =>
    let more := rest.takeWhile Char.isDigit
    let greatest ← digitsIn? 10 more
    match rest.drop more.length with
    | '\x7d' :: rest => some (least, some greatest, rest)
    | _ => none
  | _ => none

/-- The quantifier at the front, as its bounds, and what follows it. -/
def quantifier? (cs : List Char) : Option (Nat × Option Nat × List Char) := do
  let (least, greatest, rest) ← match cs with
    | '*' :: rest => some (0, none, rest)
    | '+' :: rest => some (1, none, rest)
    | '?' :: rest => some (0, some 1, rest)
    | '\x7b' :: rest => braces? rest
    | _ => none
  match rest with
  | '?' :: rest => some (least, greatest, rest)
  | rest => some (least, greatest, rest)

/-- The text in the braces at the front, and what follows. -/
def braced? : List Char → Option (List Char × List Char)
  | '\x7b' :: rest =>
    let text := rest.takeWhile (· != '\x7d')
    if text.length < rest.length then some (text, rest.drop (text.length + 1)) else none
  | _ => none

/-- What follows an escape behind its backslash; letters may have braces behind
them in unicode mode. -/
def behindEscape (unicode : Bool) : List Char → List Char
  | [] => []
  | c :: rest =>
    if unicode && (c = 'u' || c = 'p' || c = 'P') then ((braced? rest).map (·.2)).getD rest
    else rest

/-- An element of a character class, behind its backslash: its code point, unless it stands for
several, and what follows. -/
def escapedElement (unicode : Bool) : List Char → Option Nat × List Char
  | [] => (none, [])
  | c :: rest =>
    let hex (count : Nat) : Option Nat × List Char :=
      match digitsIn? 16 (rest.take count) with
      | some n => if count ≤ rest.length then (some n, rest.drop count) else (some c.toNat, rest)
      | none => (some c.toNat, rest)
    if "dDsSwWpP".toList.contains c then (none, behindEscape unicode (c :: rest))
    else
      match c with
      | 'u' =>
        match if unicode then braced? rest else none with
        | some (digits, rest) => (digitsIn? 16 digits, rest)
        | none => hex 4
      | 'b' => (some 8, rest)
      | 't' => (some 9, rest)
      | 'n' => (some 10, rest)
      | 'v' => (some 11, rest)
      | 'f' => (some 12, rest)
      | 'r' => (some 13, rest)
      | '0' => (some 0, rest)
      | 'x' => hex 2
      | c => (some c.toNat, rest)

/-- The element of a class at the front, its code point, and what follows;
nothing at the end of the class. -/
def element? (unicode : Bool) : List Char → Except String (Option (Option Nat × List Char))
  | [] => .error "Unbalanced bracket"
  | ']' :: _ => .ok none
  | ['\\'] => .error "Incomplete escape"
  | '\\' :: rest => .ok (some (escapedElement unicode rest))
  | c :: rest => .ok (some (some c.toNat, rest))

/-- What follows a class whose elements are at the front; `fuel` bounds their number. -/
def behindClass (unicode : Bool) : (fuel : Nat) → List Char → Except String (List Char)
  | 0, _ => .error "Unbalanced bracket"
  | fuel + 1, cs => do
    match ← element? unicode cs with
    | none => pure (cs.drop 1)
    | some (lower, rest) =>
      match rest with
      | '-' :: behind =>
        match ← element? unicode behind, lower with
        | none, _ => behindClass unicode fuel behind
        | some (some upper, rest), some lower =>
          if upper < lower then
            throw "Range values reversed, start char code is greater than end char code."
          behindClass unicode fuel rest
        | some (_, rest), _ => behindClass unicode fuel rest
      | rest => behindClass unicode fuel rest

/-- A check that collects the names of groups. -/
abbrev Check := StateT (List (List Char)) (Except String)

/-- What follows the opening of a group, and whether it may be repeated. -/
def groupStart (unicode : Bool) : List Char → Check (Bool × List Char)
  | '?' :: '=' :: rest | '?' :: '!' :: rest => pure (!unicode, rest)
  | '?' :: '<' :: '=' :: rest | '?' :: '<' :: '!' :: rest => pure (false, rest)
  | '?' :: ':' :: rest => pure (true, rest)
  | '?' :: '<' :: rest => do
    let name := rest.takeWhile (· != '>')
    let rest := rest.dropWhile (· != '>')
    if name.isEmpty || rest.isEmpty || name.any (fun c => "()[]\x7b\x7d \\-".toList.contains c) then
      throw "Invalid group"
    if (← get).contains name then throw "Duplicate capture group name"
    modify (name :: ·)
    pure (true, rest.drop 1)
  | '?' :: _ => throw "Invalid group"
  | rest => pure (true, rest)

/-- Checks terms up to a closing parenthesis or the end, which is left;
`fuel` bounds their number. -/
def behindTerms (unicode : Bool) : (fuel : Nat) → List Char → Check (List Char)
  | 0, cs => pure cs
  | fuel + 1, cs => do
    let goOn (repeatable : Bool) (rest : List Char) : Check (List Char) := do
      match quantifier? rest with
      | none => behindTerms unicode fuel rest
      | some (least, greatest, rest) =>
        if !repeatable then throw "Quantifier not allowed here"
        if greatest.any (· < least) then throw "Invalid quantifier"
        behindTerms unicode fuel rest
    match cs with
    | [] | ')' :: _ => pure cs
    | '|' :: rest => behindTerms unicode fuel rest
    | '^' :: rest | '$' :: rest => goOn false rest
    | ['\\'] => throw "Incomplete escape"
    | '\\' :: 'b' :: rest | '\\' :: 'B' :: rest => goOn false rest
    | '\\' :: escape => goOn true (behindEscape unicode escape)
    | '(' :: rest =>
      let (repeatable, rest) ← groupStart unicode rest
      match ← behindTerms unicode fuel rest with
      | ')' :: rest => goOn repeatable rest
      | _ => throw "Unbalanced parenthesis"
    | '[' :: rest =>
      let rest := if rest.head? = some '^' then rest.drop 1 else rest
      goOn true (← (behindClass unicode (rest.length + 1) rest : Except String (List Char)))
    | c :: rest =>
      if c = '*' || c = '+' || c = '?' then throw "Invalid atom character"
      if unicode && (c = ']' || c = '\x7b' || c = '\x7d') then throw "Invalid atom character"
      if c = '\x7b' && (braces? rest).isSome then throw "Invalid braced quantifier"
      goOn true rest

/-- What is wrong with the body of a regular expression. -/
def fault? (body flags : List Char) : Option String :=
  if flags.contains 'v' then none
  else
    match (behindTerms (flags.contains 'u') (body.length + 1) body).run [] with
    | .error message => some message
    | .ok ([], _) => none
    | .ok (_, _) => some "Unbalanced parenthesis"

end ScriptHost.Script.Regexp
