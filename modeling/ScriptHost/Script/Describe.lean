import ScriptHost.Script.Conversion

/-!
# Describing values

How a value is written at the head of a trace, or where it should have been a function.  No script
runs for it: properties are looked up as plain data.

* `describePrimitive`: what is no object;
* `describeError`: name and message of an error, and where it was made;
* `describeValue`: any value.  An object shows its members, each on a line of its own; the elements
  of an array stand on one line, where arrays and collections inside it show only their size.
-/

namespace ScriptHost.Script

/-- Text as it is described: an unpaired half is written as an escape. -/
def escapedText : Units → Units
  | [] => []
  | [u] => escapeUnit u
  | u :: v :: rest =>
    if Text.isHigh u && Text.isLow v then u :: v :: escapedText rest
    else escapeUnit u ++ escapedText (v :: rest)
where
  /-- One unit that is not part of a pair. -/
  escapeUnit (u : UInt16) : Units :=
    if Text.isHalf u then
      let digits := (Nat.toDigits 16 u.toNat).map Char.toUpper
      Text.units "\\u" ++ charUnits digits
    else [u]

/-- Text in quotes. -/
def quotedUnits (text : Units) : Units := 0x22 :: escapedText text ++ [0x22]

/-- The text of a symbol. -/
def symbolUnits (s : State) (id : Nat) : Units :=
  Text.units "Symbol(" ++ (s.symbols.getD id none).getD [] ++ Text.units ")"

/-- A symbol as it is described. -/
def describeSymbol (s : State) (id : Nat) : Units := escapedText (symbolUnits s id)

/-- A primitive as it is described. -/
def describePrimitive (s : State) : ScriptValue → Units
  | .undefined => Text.units "undefined"
  | .null => Text.units "null"
  | .boolean b => Text.units (if b then "true" else "false")
  | .number x => if x == 0 && 1 / x < 0 then Text.units "-0" else numeral x
  | .bigint n => Text.units (toString n ++ "n")
  | .symbol id => describeSymbol s id
  | .string text => quotedUnits text
  | .object _ => []

/-- A key as it stands before its value. -/
def describeKey (s : State) : Key → Units
  | .index n => natUnits n
  | .name text => escapedText text
  | .symbol id => describeSymbol s id

/-- Where an error was made. -/
def originText : Option Origin → Units
  | some ⟨file, some pos⟩ =>
    let l := pos.line
    let k := pos.column
    Text.units (" (" ++ file ++ s!":{l}:{k})")
  | some ⟨file, none⟩ => Text.units (" (" ++ file ++ ")")
  | none => []

/-- A function: its name, and whether it is a class written in script. -/
def describeFunction (f : FunctionData) (name : Option Property) : Units :=
  let sort := match f.behaviour with
    | .closure c =>
      match c.code.info.kind with
      | .baseConstructor | .derivedConstructor => "[class "
      | _ => "[Function"
    | _ => "[Function"
  let given := match name.bind (·.value?) with
    | some (.string text) => text
    | _ => []
  let separator :=
    if sort = "[Function" && !given.isEmpty then ": " else if sort = "[Function" then " " else ""
  let shown := if given.isEmpty then Text.units "(anonymous)" else escapedText given
  Text.units (sort ++ separator) ++ shown ++ Text.units "]"

/-- Pieces with commas between them, in brackets. -/
def bracketed (opening : String) (pieces : List Units) (closing : String) : Units :=
  Text.units opening ++ (Text.units ", ").intercalate pieces ++ Text.units closing

/-- What stands for a property that is no plain data. -/
def accessorText (getter setter : Option Ref) : Units :=
  Text.units (match getter, setter with
    | some _, some _ => "Getter & Setter"
    | none, some _ => "Setter"
    | some _, none => "Getter"
    | none, none => "No Getter/Setter")

/-- The properties in the order in which a description shows them. -/
def Object.entries (o : Object) : List (Key × Property) :=
  o.indexed.toList.map (fun entry => (Key.index entry.1, entry.2)) ++ o.named

mutual

/-- A value as it is described.  `outer` are the objects around it that show their members, `indent`
is how far the members of this one are moved to the right,
and `fuel` bounds how deep objects may nest. -/
def describeNested (s : State) :
    (fuel : Nat) → (outer : List Ref) → (indent : Nat) → (whole : Bool) → ScriptValue → Units
  | 0, _, _, _, _ => []
  | fuel + 1, outer, indent, whole, .object ref =>
    let o := s.heap.lookUp ref
    let inside (v : ScriptValue) : Units := describeNested s fuel [] 4 false v
    match o.kind with
    | .array length _ =>
      if !whole then Text.units s!"Array({length})"
      else if length = 0 then Text.units "[]"
      else
        bracketed "[ " ((List.range length).map fun n =>
          match (o.indexed[n]?).bind (·.value?) with
          | some v => inside v
          | none => Text.units "<empty>") " ]"
    | .collection .map entries =>
      let present := entries.toList.filterMap id
      let size := present.length
      if !whole || size = 0 then Text.units s!"Map({size})"
      else
        bracketed "Map \x7b " (present.map fun entry =>
          inside entry.1 ++ Text.units " → " ++ inside entry.2) " \x7d"
    | .collection .set entries =>
      let present := entries.toList.filterMap id
      let size := present.length
      if !whole || size = 0 then Text.units s!"Set({size})"
      else bracketed "Set \x7b " (present.map fun entry => inside entry.1) " \x7d"
    | .wrapper v =>
      let sort := match v with
        | .number _ => "Number \x7b "
        | .boolean _ => "Boolean \x7b "
        | .string _ => "String \x7b "
        | .symbol _ => "Symbol \x7b "
        | _ => "BigInt \x7b "
      Text.units sort ++ describePrimitive s v ++ Text.units " \x7d"
    | .error origin => describeError s fuel ref origin
    | .function f => describeFunction f (o.find? (.ofString "name"))
    | _ =>
      if outer.contains ref then Text.units "[Cycle]"
      else
        let margin : Units := List.replicate indent 0x20
        let members := o.entries.map fun entry =>
          let shown := match entry.2.slot with
            | .data v _ => describeNested s fuel (ref :: outer) (indent + 4) true v
            | .accessor getter setter => accessorText getter setter
          margin ++ describeKey s entry.1 ++ Text.units ": " ++ shown
        Text.units "\x7b\n" ++ (Text.units ",\n").intercalate members ++
          0x0A :: margin.drop 4 ++ Text.units "\x7d"
  | _ + 1, _, _, _, v => describePrimitive s v

/-- An error: its name and message, and where it was made. -/
def describeError (s : State) : (fuel : Nat) → Ref → Option Origin → Units
  | 0, _, _ => []
  | fuel + 1, ref, origin =>
    let part (name missing : String) : Units :=
      match s.heap.search (.name (Text.units name)) ref with
      | .found p =>
        match p.value? with
        | some (.string text) => escapedText text
        | some v => describeNested s fuel [] 4 true v
        | none => Text.units missing
      | _ => Text.units missing
    let name := part "name" "<error>"
    let message := part "message" ""
    let head :=
      if message.isEmpty then name
      else if name.isEmpty then message
      else name ++ Text.units ": " ++ message
    head ++ originText origin

end

/-- A value as it is described. -/
def describeValue (s : State) (v : ScriptValue) : Units :=
  describeNested s (s.heap.objects.size + 2) [] 4 true v

end ScriptHost.Script
