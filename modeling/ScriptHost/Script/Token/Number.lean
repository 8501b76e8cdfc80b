import ScriptHost.Script.Token.Basic

/-!
# Number literals

Decimal numbers, numbers with a base prefix, numbers with a leading zero, and big integers.
Separators stand between digits only, and nowhere behind a leading zero.

* `takeDigits`: digits with separators between them;
* `numberToken`: the number at the front of a source.
-/

namespace ScriptHost.Script

/-- The character is a digit of a base. -/
def isDigitIn (base : Nat) (c : Char) : Bool := (digitValue? c).any (· < base)

/-- Digits of a base and what follows them.  `separated` allows separators between them; `behind` is
what follows the place of a separator that was read last, and `done` holds the digits so far, the
last one first. -/
def takeDigits (base : Nat) (separated : Bool) :
    (behind : Option (List Char)) → List Char → (done : List Char) →
    Except Fault (List Char × List Char)
  | behind, '_' :: rest, done =>
    if !separated then .error ⟨"separator is not allowed", some ('_' :: rest)⟩
    else if behind.isSome then
      .error ⟨"only one underscore is allowed as numeric separator", some rest⟩
    else takeDigits base separated (some ('_' :: rest)) rest done
  | behind, cs, done =>
    let ended : Except Fault (List Char × List Char) :=
      match behind with
      | some place =>
        .error ⟨"underscores are not allowed at the end of numeric literals", some place⟩
      | none => .ok (done.reverse, cs)
    match cs with
    | [] => ended
    | c :: rest =>
      if isDigitIn base c then takeDigits base separated none rest (c :: done) else ended

/-- The name of a base in messages. -/
def baseName (base : Nat) : String :=
  if base = 16 then "hexadecimal" else if base = 8 then "octal" else "binary"

/-- The number that digits of a base spell, or the big integer if its letter follows. -/
def wholeNumber (base : Nat) (digits rest : List Char) : Lexed :=
  let n := (digitsIn? base digits).getD 0
  match rest with
  | 'n' :: rest => (.bigint n, rest)
  | rest => (.number (Float.ofNat n), rest)

/-- A number behind the prefix that tells its base. -/
def basedNumber (base : Nat) (cs : List Char) : Except Fault Lexed := do
  if !(cs.head?.any (isDigitIn base)) then
    throw ⟨"expected " ++ baseName base ++ " digit after number base prefix", some cs⟩
  let (digits, rest) ← takeDigits base true none cs []
  pure (wholeNumber base digits rest)

/-- The sign and the digits of an exponent behind its letter, and what follows. -/
def takeExponent (cs : List Char) : Except Fault (List Char × List Char) := do
  let signed (sign : Char) (rest : List Char) : Except Fault (List Char × List Char) := do
    if !(rest.head?.any Char.isDigit) then
      let message := "No digit found after " ++ String.singleton sign ++ " symbol"
      throw ⟨message, some rest⟩
    let (digits, behind) ← takeDigits 10 true none rest []
    pure ('e' :: sign :: digits, behind)
  match cs with
  | '+' :: rest => signed '+' rest
  | '-' :: rest => signed '-' rest
  | c :: rest =>
    if c.isDigit then
      let (digits, behind) ← takeDigits 10 true none cs []
      pure ('e' :: digits, behind)
    else throw ⟨"When lexing exponential value found unexpected char", some rest⟩
  | [] => throw ⟨"Abrupt end: No exponential value found", some []⟩

/-- The exponent that may follow the digits of a number, and what follows. -/
def optionalExponent : List Char → Except Fault (List Char × List Char)
  | 'e' :: rest | 'E' :: rest => takeExponent rest
  | cs => pure ([], cs)

/-- The double that a decimal spells. -/
def decimalToken (digits rest : List Char) : Lexed :=
  (.number ((Decimal.readDecimal digits).getD 0), rest)

/-- A decimal number; `separated` allows separators in its whole part. -/
def decimalNumber (separated : Bool) (cs : List Char) : Except Fault Lexed := do
  let (whole, rest) ← takeDigits 10 separated none cs []
  match rest with
  | 'n' :: behind =>
    if !separated then throw ⟨"'n' suffix not allowed in octal representation", some rest⟩
    pure (.bigint (Decimal.digitsValue whole), behind)
  | '.' :: rest =>
    if rest.head? = some '_' then throw ⟨"numeric separator not allowed after '.'", some rest⟩
    let (part, rest) ← takeDigits 10 true none rest []
    let (exponent, rest) ← optionalExponent rest
    pure (decimalToken (whole ++ '.' :: part ++ exponent) rest)
  | rest =>
    let (exponent, rest) ← optionalExponent rest
    pure (decimalToken (whole ++ exponent) rest)

/-- A number in base eight without a prefix: its digits behind the leading zero. -/
def octalNumber (cs : List Char) : Except Fault Lexed := do
  let (digits, rest) ← takeDigits 8 false none cs []
  if rest.head? = some 'n' then throw ⟨"'n' suffix not allowed in octal representation", some rest⟩
  pure (wholeNumber 8 digits rest)

/-- The number at the front, of any base. -/
def numberAhead (strict : Bool) (cs : List Char) : Except Fault Lexed :=
  match cs with
  | '.' :: rest => do
    let (part, rest) ← takeDigits 10 true none rest []
    let (exponent, rest) ← optionalExponent rest
    pure (decimalToken ('.' :: part ++ exponent) rest)
  | '0' :: c :: rest => do
    if c = 'x' || c = 'X' then basedNumber 16 rest
    else if c = 'o' || c = 'O' then basedNumber 8 rest
    else if c = 'b' || c = 'B' then basedNumber 2 rest
    else if c = 'n' then pure (.bigint 0, rest)
    else if isDigitIn 8 c then
      if strict then throw ⟨"implicit octal literals are not allowed in strict mode", some cs⟩
      octalNumber (c :: rest)
    else
      if c.isDigit && strict then throw ⟨"leading 0's are not allowed in strict mode", some cs⟩
      decimalNumber false cs
  | cs => decimalNumber true cs

/-- The number at the front, behind which no letter or digit may follow. -/
def numberToken (strict : Bool) (cs : List Char) : Except Fault Lexed := do
  let (kind, rest) ← numberAhead strict cs
  if rest.head?.any fun c => c.isAlphanum || c = '$' || c = '_' then
    throw ⟨"a numeric literal must not be followed by an alphanumeric, $ or _ characters", some rest⟩
  else pure (kind, rest)

end ScriptHost.Script
