import ScriptHost.Text.HostText

/-!
# Host values

`HostValue` is the only shape that data has once it has crossed into the host.  Maps keep their
entries as a list; the order of the entries and repeated keys are visible to whoever looks at the
list, but not to equality (`ScriptHost.Value.Equality`).
-/

namespace ScriptHost

/-- The stand-in for a script value with no host form, told apart by the generation
that built it. -/
structure Sentinel where
  generation : Nat
  deriving DecidableEq, Repr

/-- The identity of a host function. -/
structure CallableId where
  index : Nat
  deriving DecidableEq, Repr

/-- A value on the host's side. -/
inductive HostValue
  /-- Also what the script's missing value becomes. -/
  | null
  | boolean (b : Bool)
  | number (x : Float)
  | string (s : String)
  | array (items : List HostValue)
  /-- Entries in order; only string keys can cross to the script. -/
  | map (entries : List (HostValue × HostValue))
  | complexObject (sentinel : Sentinel)
  | callable (function : CallableId)
  /-- A value of the host alone, known by the name of its type. -/
  | foreign (typeName : String)
  deriving Inhabited

namespace HostValue

/-- The name of the value's kind, for a foreign value that of its type. -/
def typeName : HostValue → String
  | null => "null"
  | boolean _ => "boolean"
  | number _ => "number"
  | string _ => "string"
  | array _ => "array"
  | map _ => "map"
  | complexObject _ => "complex object"
  | callable _ => "callable"
  | foreign name => name

def isNull : HostValue → Bool
  | null => true
  | _ => false

def asBool? : HostValue → Option Bool
  | boolean b => some b
  | _ => none

def asNumber? : HostValue → Option Float
  | number x => some x
  | _ => none

def asString? : HostValue → Option String
  | string s => some s
  | _ => none

def asArray? : HostValue → Option (List HostValue)
  | array items => some items
  | _ => none

/-- The value of the first entry whose key is the string `key`. -/
def get? (key : String) : HostValue → Option HostValue
  | map entries => (entries.find? fun entry => entry.1.asString? = some key).map Prod.snd
  | _ => none

/-- Host text as a value. -/
def ofText (text : Text.HostText) : Except Text.EncodingError HostValue :=
  text.decode.map string

/-- A whole number of any size: the nearest double. -/
def ofInt (n : Int) : HostValue := number (Float.ofInt n)

/-- A number of single precision. -/
def ofSingle (x : Float32) : HostValue := number x.toFloat

/-- A value that may be missing. -/
def ofOption : Option HostValue → HostValue
  | none => null
  | some v => v

mutual

/-- How many values the value holds, itself included; map keys do not count. -/
def nodeCount : HostValue → Nat
  | array items => itemNodes 1 items
  | map entries => entryNodes 1 entries
  | _ => 1

/-- `sum` and the nodes of the items. -/
def itemNodes (sum : Nat) : List HostValue → Nat
  | [] => sum
  | v :: rest => itemNodes (sum + nodeCount v) rest

/-- `sum` and the nodes of the entries' values. -/
def entryNodes (sum : Nat) : List (HostValue × HostValue) → Nat
  | [] => sum
  | (_, v) :: rest => entryNodes (sum + nodeCount v) rest

end

mutual

/-- The nesting of containers: none for a plain value, one for an empty container. -/
def height : HostValue → Nat
  | array items => 1 + itemHeight 0 items
  | map entries => 1 + entryHeight 0 entries
  | _ => 0

/-- The greatest of `top` and the heights of the items. -/
def itemHeight (top : Nat) : List HostValue → Nat
  | [] => top
  | v :: rest => itemHeight (max top (height v)) rest

/-- The greatest of `top` and the heights of the entries' values. -/
def entryHeight (top : Nat) : List (HostValue × HostValue) → Nat
  | [] => top
  | (_, v) :: rest => entryHeight (max top (height v)) rest

end

end HostValue

end ScriptHost
