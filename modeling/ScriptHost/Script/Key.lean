import ScriptHost.Machine.Value

/-!
# Property keys

A property is found under an array index, any other text, or a symbol.  Text that spells an array
index in the usual way *is* that index, so `Key.ofUnits` is the only way from text to a key.

* `Key.ofUnits`, `Key.toUnits?`: text and key;
* `wellKnown`: the symbols that every machine has.
-/

namespace ScriptHost.Script

/-- The name of a property. -/
inductive Key
  /-- An array index, below `2 ^ 32 - 1`. -/
  | index (n : Nat)
  /-- Text that spells no array index. -/
  | name (text : Units)
  | symbol (id : Nat)
  deriving DecidableEq, Inhabited

/-- The number that stands one above the greatest array index. -/
def indexLimit : Nat := 0xFFFFFFFF

/-- The unit is a decimal digit. -/
def isDigitUnit (u : UInt16) : Bool := 0x30 ≤ u && u ≤ 0x39

/-- The number that digits spell. -/
def digitsNumber (text : Units) : Nat :=
  text.foldl (fun n u => 10 * n + (u.toNat - 0x30)) 0

/-- The array index that the text spells without a leading zero. -/
def arrayIndex? (text : Units) : Option Nat :=
  match text with
  | [] => none
  | first :: rest =>
    if (first :: rest).length ≤ 10 && (first :: rest).all isDigitUnit &&
        (first != 0x30 || rest.isEmpty)
    then
      let n := digitsNumber (first :: rest)
      if n < indexLimit then some n else none
    else none

/-- The digits of a number as units. -/
def natUnits (n : Nat) : Units := (Nat.toDigits 10 n).map fun c => UInt16.ofNat c.toNat

namespace Key

/-- The key that a text names. -/
def ofUnits (text : Units) : Key :=
  match arrayIndex? text with
  | some n => index n
  | none => name text

/-- The key that a string names. -/
def ofString (s : String) : Key := ofUnits (Text.units s)

/-- The key of a position, which is an array index unless it is too great. -/
def ofNat (n : Nat) : Key := if n < indexLimit then index n else name (natUnits n)

/-- The text of a key that is not a symbol. -/
def toUnits? : Key → Option Units
  | index n => some (natUnits n)
  | name text => some text
  | symbol _ => none

/-- The key as a script value. -/
def toValue : Key → ScriptValue
  | index n => .string (natUnits n)
  | name text => .string text
  | symbol id => .symbol id

def isSymbol : Key → Bool
  | symbol _ => true
  | _ => false

end Key

/-- The symbols that every machine has, in the order of their numbers. -/
inductive WellKnown
  | iterator
  | asyncIterator
  | hasInstance
  | toPrimitive
  | toStringTag
  | species
  | isConcatSpreadable
  | unscopables
  | search
  | split
  | replace
  | matchFirst
  | matchAll
  deriving DecidableEq, Repr

namespace WellKnown

/-- All of them, in the order of their numbers. -/
def all : List WellKnown :=
  [iterator, asyncIterator, hasInstance, toPrimitive, toStringTag, species, isConcatSpreadable,
    unscopables, search, split, replace, matchFirst, matchAll]

/-- All of them, in the order of their labels. -/
def byLabel : List WellKnown :=
  [asyncIterator, hasInstance, isConcatSpreadable, iterator, matchFirst, matchAll, replace, search,
    species, split, toPrimitive, toStringTag, unscopables]

/-- The property of the symbol constructor that holds the symbol. -/
def label : WellKnown → String
  | iterator => "iterator"
  | asyncIterator => "asyncIterator"
  | hasInstance => "hasInstance"
  | toPrimitive => "toPrimitive"
  | toStringTag => "toStringTag"
  | species => "species"
  | isConcatSpreadable => "isConcatSpreadable"
  | unscopables => "unscopables"
  | search => "search"
  | split => "split"
  | replace => "replace"
  | matchFirst => "match"
  | matchAll => "matchAll"

/-- The number of the symbol. -/
def id (w : WellKnown) : Nat := w.ctorIdx

def key (w : WellKnown) : Key := .symbol w.id

end WellKnown

end ScriptHost.Script
