import ScriptHost.Script.Builtin
import ScriptHost.Script.Code
import ScriptHost.Script.Key
import ScriptHost.Script.Numeral
import Std.Data.TreeMap.Basic

/-!
# Objects

An object has a prototype, properties and a kind.  Its properties under array indices are kept in
order of the index, the others in the order in which they were made.  The length of an array is a
property like any other, but lives in the object's kind, because it moves with the elements.  The
elements of a typed array are properties too, but it has the ones that it was made with and no
others, and answers for all numeric keys alone.

* reading: `Object.find?`, `Object.ownKeys`, `Object.closes?`;
* raw changes: `Object.put`, `Object.remove`;
* changes by the rules: `Object.define?`, which refuses what a property does not allow, and
  `Object.delete?`;
* the store: `Heap`, `Heap.allocate`, `Heap.lookUp`.
-/

namespace ScriptHost.Script

/-- What a property holds. -/
inductive PropertySlot
  | data (value : ScriptValue) (writable : Bool)
  | accessor (getter setter : Option Ref)
  deriving DecidableEq, Inhabited

/-- A property. -/
structure Property where
  slot : PropertySlot
  enumerable : Bool
  configurable : Bool
  deriving DecidableEq, Inhabited

namespace Property

/-- A property as assignments make it. -/
def plain (v : ScriptValue) : Property := ⟨.data v true, true, true⟩

/-- A property as the library makes it: not enumerable. -/
def hidden (v : ScriptValue) : Property := ⟨.data v true, false, true⟩

/-- A property that never changes. -/
def fixed (v : ScriptValue) : Property := ⟨.data v false, false, false⟩

/-- A property that only a definition changes. -/
def readOnly (v : ScriptValue) : Property := ⟨.data v false, false, true⟩

/-- The value of a data property. -/
def value? (p : Property) : Option ScriptValue :=
  match p.slot with
  | .data v _ => some v
  | .accessor .. => none

end Property

/-- The place of a scope in the machine's store. -/
abbrev ScopeRef := Nat

/-- A field of a class: its key and the function that computes its first value. -/
structure ClassField where
  key : Key
  code : FunctionCode
  scope : ScopeRef

/-- A function written in script. -/
structure Closure where
  code : FunctionCode
  /-- Where its free names are looked up. -/
  scope : ScopeRef
  file : String
  /-- The object whose prototype `super` refers to. -/
  home : Option Ref
  /-- The fields that a constructor gives to each new object. -/
  fields : List ClassField

/-- What happens when a function is called. -/
inductive Behaviour
  | closure (c : Closure)
  | builtin (op : Builtin)
  | bound (target : Ref) (this : ScriptValue) (args : List ScriptValue)
  | native (id : NativeId)

/-- A function: its behaviour, its name in traces, and whether it can be constructed. -/
structure FunctionData where
  behaviour : Behaviour
  label : String
  constructs : Bool

/-- A place in a file, if more than the file is known. -/
structure Origin where
  file : String
  pos : Option Position
  deriving DecidableEq, Repr

/-- What an iterator yields at each step. -/
inductive Yield
  | key
  | value
  | entry
  deriving DecidableEq, Repr

/-- What an object is besides its properties. -/
inductive Kind
  | ordinary
  | array (length : Nat) (writable : Bool)
  | function (f : FunctionData)
  /-- Made by an error constructor, perhaps at a known place. -/
  | error (origin : Option Origin)
  /-- A wrapped primitive. -/
  | wrapper (v : ScriptValue)
  | date (time : Float)
  | regexp (body flags : Units)
  /-- The arguments of a call.  Some elements and names of the call's scope follow one another. -/
  | arguments (scope : ScopeRef) (followed : List (Nat × Units))
  /-- Entries in order of insertion; deleted ones leave a gap. -/
  | collection (kind : CollectionKind) (entries : Array (Option (ScriptValue × ScriptValue)))
  | typedArray (element : ElementType) (length : Nat)
  | buffer (size : Nat)
  /-- Walks an object by its indices. -/
  | arrayIterator (target : Option Ref) (next : Nat) (yields : Yield)
  | textIterator (rest : Units)
  | collectionIterator (target : Option Ref) (next : Nat) (yields : Yield)
  /-- Sends operations on it to a handler; a revoked one has lost target and handler. -/
  | proxy (ends : Option (Ref × Ref)) (calls constructs : Bool)

/-- An object. -/
structure Object where
  proto : Option Ref
  extensible : Bool
  kind : Kind
  indexed : Std.TreeMap Nat Property
  named : List (Key × Property)

instance : Inhabited Object := ⟨⟨none, true, .ordinary, ∅, []⟩⟩

/-- The text is what some number is printed as, or negative zero. -/
def spellsNumber (text : Units) : Bool :=
  text = Text.units "-0" || numeral (numberOfText text) = text

/-- The key could be one of an element, whatever the number of elements. -/
def Key.isNumeric : Key → Bool
  | .index _ => true
  | .name text => spellsNumber text
  | .symbol _ => false

/-- The key of the property that counts elements. -/
def lengthKey : Key := .name (Text.units "length")

/-- A length as a number. -/
def lengthValue (n : Nat) : ScriptValue := .number (Float.ofNat n)

namespace Object

/-- An object without properties. -/
def empty (proto : Option Ref) (kind : Kind) : Object := ⟨proto, true, kind, ∅, []⟩

/-- The own property under a key. -/
def find? (o : Object) (k : Key) : Option Property :=
  match k with
  | .index n => o.indexed[n]?
  | k =>
    match o.kind with
    | .array length writable =>
      if k = lengthKey then some ⟨.data (lengthValue length) writable, false, false⟩
      else o.named.lookup k
    | _ => o.named.lookup k

/-- What a typed array stores, if the key is one that it answers for whatever its
prototypes hold. -/
def closes? (o : Object) (k : Key) : Option ElementType :=
  match o.kind with
  | .typedArray element _ => if k.isNumeric then some element else none
  | _ => none

/-- Replaces the entry of a key, or adds it at the end. -/
def putNamed (k : Key) (p : Property) : List (Key × Property) → List (Key × Property)
  | [] => [(k, p)]
  | entry :: rest => if entry.1 = k then (k, p) :: rest else entry :: putNamed k p rest

/-- The object with a property under a key, whatever it was before. -/
def put (o : Object) (k : Key) (p : Property) : Object :=
  match k with
  | .index n => { o with indexed := o.indexed.insert n p }
  | k => { o with named := putNamed k p o.named }

/-- The object without the property under a key. -/
def remove (o : Object) (k : Key) : Object :=
  match k with
  | .index n => { o with indexed := o.indexed.erase n }
  | k => { o with named := o.named.filter fun entry => entry.1 != k }

/-- The own keys: indices in order, then text in order of insertion, then symbols. -/
def ownKeys (o : Object) : List Key :=
  let texts := (o.named.map (·.1)).filter fun k => !k.isSymbol
  let symbols := (o.named.map (·.1)).filter Key.isSymbol
  let length := match o.kind with
    | .array .. => [lengthKey]
    | _ => []
  o.indexed.keys.map Key.index ++ length ++ texts ++ symbols

/-- The name that an element of an object of arguments follows, and its scope. -/
def followed? (o : Object) (k : Key) : Option (ScopeRef × Units) :=
  match o.kind, k with
  | .arguments scope followed, .index n => (followed.lookup n).map (scope, ·)
  | _, _ => none

/-- The object once the element under a key no longer follows a name. -/
def detach (o : Object) (k : Key) : Object :=
  match o.kind, k with
  | .arguments scope followed, .index n =>
    { o with kind := .arguments scope (followed.filter fun entry => entry.1 != n) }
  | _, _ => o

/-- The object of arguments after a name of the call's scope has got a value. -/
def follow (o : Object) (name : Units) (v : ScriptValue) : Object :=
  match o.kind with
  | .arguments _ followed =>
    match followed.find? fun entry => entry.2 = name with
    | none => o
    | some (n, _) =>
      match o.indexed[n]? with
      | some p => { o with indexed := o.indexed.insert n { p with slot := .data v true } }
      | none => o
  | _ => o

end Object

/-- What a definition says of a property; what it leaves out stays as it is. -/
structure Descriptor where
  value : Option ScriptValue
  writable : Option Bool
  getter : Option (Option Ref)
  setter : Option (Option Ref)
  enumerable : Option Bool
  configurable : Option Bool

namespace Descriptor

/-- A definition that says nothing. -/
def blank : Descriptor := ⟨none, none, none, none, none, none⟩

def isAccessor (d : Descriptor) : Bool := d.getter.isSome || d.setter.isSome

def isData (d : Descriptor) : Bool := d.value.isSome || d.writable.isSome

/-- The definition leaves an element of a typed array what it is, its value aside. -/
def fitsElement (d : Descriptor) : Bool :=
  !d.isAccessor && d.writable != some false && d.enumerable != some false &&
      d.configurable != some false

/-- The definition that says all of a property. -/
def ofProperty (p : Property) : Descriptor :=
  match p.slot with
  | .data v w => ⟨some v, some w, none, none, some p.enumerable, some p.configurable⟩
  | .accessor g s => ⟨none, none, some g, some s, some p.enumerable, some p.configurable⟩

/-- The new property that a definition makes. -/
def toProperty (d : Descriptor) : Property :=
  let slot : PropertySlot :=
    if d.isAccessor then .accessor (d.getter.getD none) (d.setter.getD none)
    else .data (d.value.getD .undefined) (d.writable.getD false)
  ⟨slot, d.enumerable.getD false, d.configurable.getD false⟩

end Descriptor

/-- The two values are the same: not-a-number is, and the two zeros are not. -/
def sameValue : ScriptValue → ScriptValue → Bool
  | .number x, .number y => (x.isNaN && y.isNaN) || (x == y && (x != 0 || 1 / x == 1 / y))
  | .number _, _ => false
  | _, .number _ => false
  | v, w => v = w

namespace Property

/-- The property after a definition; nothing if the property does not allow it. -/
def redefine? (p : Property) (d : Descriptor) : Option Property :=
  let keepsFlags := d.configurable != some true &&
    (d.enumerable = none || d.enumerable = some p.enumerable)
  let enumerable := d.enumerable.getD p.enumerable
  let configurable := d.configurable.getD p.configurable
  if !p.configurable && !keepsFlags then none
  else
    match p.slot with
    | .data v w =>
      if d.isAccessor then
        if p.configurable then
          some ⟨.accessor (d.getter.getD none) (d.setter.getD none), enumerable, configurable⟩
        else none
      else if !p.configurable && !w &&
          (d.writable = some true || (d.value.map fun new => !sameValue new v).getD false) then none
      else some ⟨.data (d.value.getD v) (d.writable.getD w), enumerable, configurable⟩
    | .accessor g s =>
      if d.isData then
        if p.configurable then
          some ⟨.data (d.value.getD .undefined) (d.writable.getD false), enumerable, configurable⟩
        else none
      else if !p.configurable && (d.getter.getD g != g || d.setter.getD s != s) then none
      else some ⟨.accessor (d.getter.getD g) (d.setter.getD s), enumerable, configurable⟩

end Property

namespace Object

/-- The object after a definition that no element count depends on. -/
def definePlain? (o : Object) (k : Key) (d : Descriptor) : Option Object :=
  match o.find? k with
  | some p => (p.redefine? d).map (o.put k)
  | none => if o.extensible then some (o.put k d.toProperty) else none

/-- Drops elements from the end as long as they are beyond `length` and may be deleted; what is
left, and the length at which it stopped. -/
def truncate (length : Nat) : List Nat → Object → Object × Nat
  | [], o => (o, length)
  | n :: rest, o =>
    if n < length then (o, length)
    else
      match o.indexed[n]? with
      | some p => if p.configurable then truncate length rest (o.remove (.index n)) else (o, n + 1)
      | none => truncate length rest o

/-- The array after a definition of its length, which is `length` if the definition gives a value;
the second answer says whether all went as asked. -/
def defineLength (o : Object) (old : Nat) (writable : Bool) (length : Nat) (d : Descriptor) :
    Object × Bool :=
  let current : Property := ⟨.data (lengthValue old) writable, false, false⟩
  match current.redefine? { d with value := d.value.map fun _ => lengthValue length } with
  | none => (o, false)
  | some _ =>
    let stays := d.writable.getD writable
    if d.value.isNone || old ≤ length then
      let length := if d.value.isNone then old else length
      ({ o with kind := .array length stays }, true)
    else
      let (o, reached) := truncate length o.indexed.keys.reverse o
      ({ o with kind := .array reached stays }, reached = length)

/-- The typed array after a definition of an element, whose value has been converted; nothing if it
is refused. -/
def defineElement? (o : Object) (k : Key) (d : Descriptor) : Option Object :=
  if (o.find? k).isSome && d.fitsElement then
    match d.value with
    | some v => some (o.put k (.plain v))
    | none => some o
  else none

/-- The object after a definition; nothing if it is refused.  Elements beyond the end of an array
move its length. -/
def define? (o : Object) (k : Key) (d : Descriptor) : Option Object :=
  match o.kind, k with
  | .array length writable, .index n =>
    if length ≤ n then
      if writable then
        (o.definePlain? k d).map fun o => { o with kind := .array (n + 1) writable }
      else none
    else o.definePlain? k d
  | .typedArray .., k => if k.isNumeric then o.defineElement? k d else o.definePlain? k d
  | _, _ => o.definePlain? k d

/-- The object after a deletion; nothing if it is refused. -/
def delete? (o : Object) (k : Key) : Option Object :=
  match o.find? k with
  | none => some o
  | some p => if p.configurable && (o.closes? k).isNone then some (o.remove k) else none

end Object

/-- The objects of a machine. -/
structure Heap where
  objects : Array Object

namespace Heap

/-- The object at a place; an empty one if there is none. -/
def lookUp (h : Heap) (ref : Ref) : Object := h.objects.getD ref default

/-- Stores an object at a new place. -/
def allocate (h : Heap) (o : Object) : Ref × Heap := (h.objects.size, ⟨h.objects.push o⟩)

/-- Replaces the object at a place. -/
def replace (h : Heap) (ref : Ref) (o : Object) : Heap := ⟨h.objects.setIfInBounds ref o⟩

/-- Changes the object at a place. -/
def modify (h : Heap) (ref : Ref) (f : Object → Object) : Heap := ⟨h.objects.modify ref f⟩

end Heap

end ScriptHost.Script
