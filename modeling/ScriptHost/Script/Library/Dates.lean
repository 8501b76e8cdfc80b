import ScriptHost.Script.Library.Functions

/-!
# Dates and patterns

A date is a number of milliseconds since 1970, taken in universal time.  A pattern is only its
source text and its flags.
-/

namespace ScriptHost.Script.Library

open Run

/-- A day of the calendar. -/
structure CivilDay where
  year : Int
  month : Nat
  day : Nat

/-- The days since 1970 of a day of the calendar; months from twelve on belong to later years. -/
def daysFromCivil (year : Int) (month : Int) (day : Int) : Int :=
  let year := year + month.fdiv 12
  let month := month.emod 12
  let y := if month < 2 then year - 1 else year
  let era := y.fdiv 400
  let yearOfEra := y - era * 400
  let shifted := (month + 10).emod 12
  let dayOfYear := (153 * shifted + 2) / 5
  let dayOfEra := yearOfEra * 365 + yearOfEra / 4 - yearOfEra / 100 + dayOfYear
  era * 146097 + dayOfEra - 719468 + (day - 1)

/-- The day of the calendar that is so many days after the start of 1970. -/
def civilFromDays (days : Int) : CivilDay :=
  let z := days + 719468
  let era := z.fdiv 146097
  let dayOfEra := z - era * 146097
  let yearOfEra := (dayOfEra - dayOfEra / 1460 + dayOfEra / 36524 - dayOfEra / 146096) / 365
  let dayOfYear := dayOfEra - (365 * yearOfEra + yearOfEra / 4 - yearOfEra / 100)
  let shifted := (5 * dayOfYear + 2) / 153
  let day := dayOfYear - (153 * shifted + 2) / 5 + 1
  let month := (shifted + 2).emod 12
  let year := yearOfEra + era * 400 + (if month < 2 then 1 else 0)
  ⟨year, month.toNat, day.toNat⟩

/-- The number of milliseconds in a day. -/
def dayLength : Int := 86400000

/-- The parts of a time. -/
structure TimeParts where
  day : CivilDay
  weekday : Nat
  hours : Nat
  minutes : Nat
  seconds : Nat
  milliseconds : Nat

/-- The parts of a time that is a whole number of milliseconds. -/
def timeParts (time : Int) : TimeParts :=
  let days := time.fdiv dayLength
  let rest := (time.emod dayLength).toNat
  ⟨civilFromDays days, ((days + 4).emod 7).toNat, rest / 3600000, rest / 60000 % 60,
    rest / 1000 % 60, rest % 1000⟩

/-- Digits with zeros in front. -/
def padded (width n : Nat) : String :=
  let digits := toString n
  "".pushn '0' (width - digits.length) ++ digits

def weekdayNames : List String := ["Sun", "Mon", "Tue", "Wed", "Thu", "Fri", "Sat"]

def monthNames : List String :=
  ["Jan", "Feb", "Mar", "Apr", "May", "Jun", "Jul", "Aug", "Sep", "Oct", "Nov", "Dec"]

/-- The year as long texts show it. -/
def yearText (year : Int) : String :=
  if year < 0 then "-" ++ padded 6 year.natAbs else padded 4 year.toNat

/-- The year as the short form shows it. -/
def isoYear (year : Int) : String :=
  if 0 ≤ year && year ≤ 9999 then padded 4 year.toNat
  else (if year < 0 then "-" else "+") ++ padded 6 year.natAbs

/-- The time of day. -/
def clockText (p : TimeParts) : String :=
  padded 2 p.hours ++ ":" ++ padded 2 p.minutes ++ ":" ++ padded 2 p.seconds

/-- The short form of a time. -/
def isoText (time : Int) : String :=
  let p := timeParts time
  isoYear p.day.year ++ "-" ++ padded 2 (p.day.month + 1) ++ "-" ++ padded 2 p.day.day ++ "T" ++
    clockText p ++ "." ++ padded 3 p.milliseconds ++ "Z"

/-- The long form of a time. -/
def dateText (time : Int) : String :=
  let p := timeParts time
  weekdayNames.getD p.weekday "" ++ " " ++ monthNames.getD p.day.month "" ++ " " ++
    padded 2 p.day.day ++ " " ++ yearText p.day.year ++ " " ++ clockText p ++ " GMT+0000"

/-- The long form of a time in universal order. -/
def utcText (time : Int) : String :=
  let p := timeParts time
  weekdayNames.getD p.weekday "" ++ ", " ++ padded 2 p.day.day ++ " " ++
    monthNames.getD p.day.month "" ++ " " ++ yearText p.day.year ++ " " ++ clockText p ++ " GMT"

/-- The time, if dates reach so far. -/
def clipTime (x : Float) : Float :=
  if x.isNaN || x.isInf || 8640000000000000 < x.abs then notNumber else wholePart x + 0

/-- Decimal digits of a fixed count at the front. -/
def takeNumber? (width : Nat) (cs : List Char) : Option (Nat × List Char) :=
  let digits := cs.take width
  if digits.length = width && digits.all Char.isDigit then
    some (Decimal.digitsValue digits, cs.drop width)
  else none

/-- Two digits behind a mark, if the mark is there. -/
def takePart (mark : Char) (missing : Nat) (cs : List Char) : Option (Nat × List Char) :=
  match cs with
  | c :: rest => if c = mark then takeNumber? 2 rest else some (missing, cs)
  | [] => some (missing, [])

/-- The time that the short form means. -/
def readTime (text : Units) : Float :=
  let parsed : Option Int := do
    let (year, cs) ← takeNumber? 4 (unitChars text)
    let (month, cs) ← takePart '-' 1 cs
    let (day, cs) ← takePart '-' 1 cs
    let (hours, cs) ← takePart 'T' 0 cs
    let (minutes, cs) ← takePart ':' 0 cs
    let (seconds, cs) ← takePart ':' 0 cs
    let (millis, cs) ← match cs with
      | '.' :: rest => takeNumber? 3 rest
      | cs => some (0, cs)
    if month < 1 || 12 < month || day < 1 || 31 < day || 24 < hours || 59 < minutes || 59 < seconds
    then none
    else
      match cs with
      | [] | ['Z'] =>
        some (daysFromCivil year (month - 1) day * dayLength +
          (hours * 3600000 + minutes * 60000 + seconds * 1000 + millis : Nat))
      | _ => none
  (parsed.map intFloat).getD notNumber

/-- The time of a receiver that is a date. -/
def thisTime (this : ScriptValue) : Run Float := do
  match this with
  | .object ref =>
    match ← kindOf ref with
    | .date time => pure time
    | _ => throwTypeError "'this' is not a Date"
  | _ => throwTypeError "'this' is not a Date"

/-- The time of the parts that the arguments give: year, month and so on. -/
def timeOfParts (args : List ScriptValue) : Run Float := do
  let xs ← foldItems (fun (done : List Float) v => do pure ((← toNumber v) :: done)) args []
  let xs := xs.reverse
  if xs.any fun x => x.isNaN || x.isInf then pure notNumber
  else
    let part (n : Nat) (missing : Int) : Int :=
      ((xs[n]?).map fun x => floatInt (wholePart x)).getD missing
    let year := part 0 1970
    let year := if 0 ≤ year && year ≤ 99 then year + 1900 else year
    let time := daysFromCivil year (part 1 0) (part 2 1) * dayLength + part 3 0 * 3600000 +
      part 4 0 * 60000 + part 5 0 * 1000 + part 6 0
    pure (clipTime (intFloat time))

/-- A part of a date, not a number if the date is none. -/
def datePart (this : ScriptValue) (f : TimeParts → Int) : Run ScriptValue := do
  let time ← thisTime this
  pure (.number (if time.isNaN then notNumber else intFloat (f (timeParts (exactInt time)))))

/-- A form of a date. -/
def dateForm (this : ScriptValue) (f : Int → String) : Run ScriptValue := do
  let time ← thisTime this
  pure (textValue (if time.isNaN then "Invalid Date" else f (exactInt time)))

/-- A new date. -/
def makeDate (i : Invocation) : Run ScriptValue := do
  match i.target with
  | none => pure (textValue (dateText 0))
  | some target =>
    let time ← match i.args with
      | [] => pure 0
      | [.object ref] =>
        match ← kindOf ref with
        | .date time => pure time
        | _ => ofPrimitive (← toPrimitive .none (.object ref))
      | [v] => ofPrimitive v
      | args => timeOfParts args
    let proto ← prototypeFor (some target) .datePrototype
    ScriptValue.object <$> allocate (.empty (some proto) (.date time))
where
  /-- The time that a primitive means. -/
  ofPrimitive (v : ScriptValue) : Run Float := do
    match v with
    | .string text => pure (readTime text)
    | v => do pure (clipTime (← toNumber v))

/-- The source and the flags of a receiver that is a pattern. -/
def thisRegexp (this : ScriptValue) : Run (Units × Units) := do
  match this with
  | .object ref =>
    match ← kindOf ref with
    | .regexp body flags => pure (body, flags)
    | _ =>
      if ref = Intrinsic.regexpPrototype.ref then pure (Text.units "(?:)", [])
      else throwTypeError "'this' is not a RegExp"
  | _ => throwTypeError "'this' is not a RegExp"

/-- The body of a pattern as it would stand between slashes. -/
def literalBody : Units → Units
  | [] => []
  | 0x5C :: u :: rest => 0x5C :: u :: literalBody rest
  | 0x2F :: rest => 0x5C :: 0x2F :: literalBody rest
  | 0x0A :: rest => 0x5C :: 0x6E :: literalBody rest
  | 0x0D :: rest => 0x5C :: 0x72 :: literalBody rest
  | u :: rest => u :: literalBody rest

/-- A new pattern. -/
def makeRegexp (i : Invocation) : Run ScriptValue := do
  let pattern := i.arg 0
  let (body, usual) ← match pattern with
    | .object ref =>
      match ← kindOf ref with
      | .regexp body flags => pure (body, flags)
      | _ => do pure (literalBody (← Run.toText pattern), [])
    | .undefined => pure ([], [])
    | v => do pure (literalBody (← Run.toText v), [])
  let flags ← match i.arg 1 with
    | .undefined => pure usual
    | v => Run.toText v
  let flagText := Text.pairUnitsLossyChars flags
  if let some message := Regexp.flagFault? flagText then throwNew .syntaxError message
  if let some message := Regexp.fault? (Text.pairUnitsLossyChars body) flagText then
    throwNew .syntaxError ("failed to create matcher: " ++ message)
  let proto ← prototypeFor i.target .regexpPrototype
  let body := if body.isEmpty then Text.units "(?:)" else body
  ScriptValue.object <$> allocate (regexpObject proto body flags)

end ScriptHost.Script.Library

namespace ScriptHost.Script

open Run Library

/-- A function of dates. -/
def DateOp.run (op : DateOp) (i : Invocation) : Run ScriptValue :=
  match op with
  | construct => makeDate i
  | now => pure (.number 0)
  | parse => do pure (.number (readTime (← Run.toText (i.arg 0))))
  | utc => ScriptValue.number <$> timeOfParts i.args
  | time => ScriptValue.number <$> thisTime i.this
  | setTime => do
    let _ ← thisTime i.this
    let time := clipTime (← toNumber (i.arg 0))
    match i.this with
    | .object ref => modifyObject ref fun o => { o with kind := .date time }
    | _ => pure ()
    pure (.number time)
  | year => datePart i.this fun p => p.day.year
  | month => datePart i.this fun p => p.day.month
  | day => datePart i.this fun p => p.day.day
  | weekday => datePart i.this fun p => p.weekday
  | hours => datePart i.this fun p => p.hours
  | minutes => datePart i.this fun p => p.minutes
  | seconds => datePart i.this fun p => p.seconds
  | milliseconds => datePart i.this fun p => p.milliseconds
  | zoneOffset => do
    let time ← thisTime i.this
    pure (.number (if time.isNaN then notNumber else 0))
  | .isoText => do
    let time ← thisTime i.this
    if time.isNaN then throwRangeError "Invalid time value"
    pure (textValue (Library.isoText (exactInt time)))
  | json => do
    let ref ← toObject i.this
    match ← Run.toPrimitive .number (.object ref) with
    | .number x => if x.isNaN || x.isInf then pure .null else invoke (.object ref) "toISOString" []
    | _ => invoke (.object ref) "toISOString" []
  | text => dateForm i.this dateText
  | .utcText => dateForm i.this Library.utcText
  | toPrimitive => do
    let ref ← requireRef "Date.prototype[@@toPrimitive] called on non object" i.this
    match i.arg 0 with
    | .string hint =>
      if hint = Text.units "number" then ordinaryPrimitive proxyOps .number ref
      else if hint = Text.units "string" || hint = Text.units "default" then
        ordinaryPrimitive proxyOps .string ref
      else throwTypeError "Date.prototype[@@toPrimitive] called with invalid hint"
    | _ => throwTypeError "Date.prototype[@@toPrimitive] called with invalid hint"

/-- A function of patterns. -/
def RegexpOp.run (op : RegexpOp) (i : Invocation) : Run ScriptValue :=
  match op with
  | construct => makeRegexp i
  | toText => do
    let ref ← requireRef "'this' is not a RegExp" i.this
    let body ← Run.toText (← getNamed ref "source")
    let flags ← Run.toText (← getNamed ref "flags")
    pure (.string (0x2F :: body ++ 0x2F :: flags))
  | source => do pure (.string (← thisRegexp i.this).1)
  | flags => do pure (.string (← thisRegexp i.this).2)
  | hasFlag c => do
    let (_, letters) ← thisRegexp i.this
    flag (letters.contains (UInt16.ofNat c.toNat))

end ScriptHost.Script
