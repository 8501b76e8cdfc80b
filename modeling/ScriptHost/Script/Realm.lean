import ScriptHost.Script.Names
import ScriptHost.Script.Call

/-!
# The objects of a new machine

`freshState` is the state of a new machine: the objects that every machine has, the constructors,
and the global object with all of them.
-/

namespace ScriptHost.Script.Realm

/-- Work on the store of a new machine. -/
abbrev Setup := StateM Heap

/-- Stores an object. -/
def add (o : Object) : Setup Ref := fun h => h.allocate o

/-- Gives an object a property. -/
def put (ref : Ref) (k : Key) (p : Property) : Setup Unit :=
  modify fun h => h.modify ref fun o => o.put k p

/-- Gives an object a property that is not enumerable. -/
def putHidden (ref : Ref) (name : String) (v : ScriptValue) : Setup Unit :=
  put ref (.ofString name) (.hidden v)

/-- Stores a built-in function. -/
def addFunction (name : String) (op : Builtin) (length : Nat) : Setup Ref :=
  add (builtinObject op name length false)

/-- A method: its name, the function, the number of its parameters. -/
abbrev Row := String × Builtin × Nat

/-- Gives an object methods. -/
def addMethods (ref : Ref) (rows : List Row) : Setup Unit :=
  rows.forM fun (name, op, length) => do
    let f ← addFunction name op length
    putHidden ref name (.object f)

/-- Gives an object a method under a symbol. -/
def addSymbolMethod (ref : Ref) (symbol : WellKnown) (name : String) (op : Builtin) (length : Nat) :
    Setup Unit := do
  let f ← addFunction name op length
  put ref symbol.key (.hidden (.object f))

/-- Gives an object a property that is computed when it is read. -/
def addGetter (ref : Ref) (k : Key) (name : String) (op : Builtin) : Setup Unit := do
  let f ← addFunction ("get " ++ name) op 0
  put ref k ⟨.accessor (some f) none, false, true⟩

/-- Gives an object the tag by which it is shown as text. -/
def addTag (ref : Ref) (tag : String) : Setup Unit :=
  put ref WellKnown.toStringTag.key (.readOnly (.string (Text.units tag)))

/-- Makes a property the last one of its object. -/
def moveToEnd (ref : Ref) (k : Key) : Setup Unit :=
  modify fun h => h.modify ref fun o => match o.find? k with
    | some p => (o.remove k).put k p
    | none => o

/-- Ties a constructor to the prototype of what it makes.  The properties that all constructors and
all prototypes have come last in both. -/
def tie (constructor proto : Ref) : Setup Unit := do
  moveToEnd constructor lengthKey
  moveToEnd constructor (.ofString "name")
  put constructor (.ofString "prototype") (.fixed (.object proto))
  putHidden proto "constructor" (.object constructor)

/-- Puts an object into a property of the global object. -/
def addGlobal (name : String) (ref : Ref) : Setup Unit :=
  putHidden Intrinsic.global.ref name (.object ref)

/-- Adds a constructor, its own properties, and those of the prototype of what it makes; the answer
is the constructor. -/
def addConstructor (name : String) (op : Builtin) (length : Nat) (proto : Ref)
    (statics : Ref → Setup Unit) (members : Setup Unit) : Setup Ref := do
  let ref ← add (builtinObject op name length true)
  statics ref
  members
  tie ref proto
  addGlobal name ref
  pure ref

/-- Adds nothing to an object. -/
def nothingMore (_ : Ref) : Setup Unit := pure ()

/-- The objects that stand at fixed places, before they have properties. -/
def bare (i : Intrinsic) : Object :=
  let usual := some Intrinsic.objectPrototype.ref
  match i with
  | .objectPrototype => .empty none .ordinary
  | .functionPrototype =>
    functionObject Intrinsic.objectPrototype.ref ⟨.builtin (.function .nothing), "", false⟩ [] 0
  | .arrayPrototype => .empty usual (.array 0 true)
  | .typeErrorPrototype | .referenceErrorPrototype | .syntaxErrorPrototype | .rangeErrorPrototype
  | .evalErrorPrototype | .uriErrorPrototype | .aggregateErrorPrototype =>
    .empty (some Intrinsic.errorPrototype.ref) .ordinary
  | .stringPrototype => Run.textWrapper Intrinsic.objectPrototype.ref []
  | .numberPrototype => .empty usual (.wrapper (.number 0))
  | .booleanPrototype => .empty usual (.wrapper (.boolean false))
  | .arrayIteratorPrototype | .textIteratorPrototype | .mapIteratorPrototype | .setIteratorPrototype
  | .generatorPrototype =>
    .empty (some Intrinsic.iteratorPrototype.ref) .ordinary
  | .arrayConstructor => builtinObject (.array .construct) "Array" 1 true
  | .throwingAccessor => builtinObject (.globals .refuse) "" 0 false
  | _ => .empty usual .ordinary

/-! ## Families -/

/-- The functions of the constructor of objects. -/
def objectRows : List Row :=
  [("create", .object .create, 2), ("setPrototypeOf", .object .setPrototypeOf, 2),
    ("getPrototypeOf", .object .prototypeOf, 1), ("defineProperty", .object .defineProperty, 3),
    ("defineProperties", .object .defineProperties, 2), ("assign", .object .assign, 2),
    ("is", .object .sameValue, 2), ("keys", .object .keys, 1), ("values", .object .values, 1),
    ("entries", .object .entries, 1), ("seal", .object .sealUp, 1),
    ("isSealed", .object .isSealed, 1),
    ("freeze", .object .freeze, 1), ("isFrozen", .object .isFrozen, 1),
    ("preventExtensions", .object .preventExtensions, 1),
    ("isExtensible", .object .isExtensible, 1),
    ("getOwnPropertyDescriptor", .object .ownDescriptor, 2),
    ("getOwnPropertyDescriptors", .object .ownDescriptors, 1),
    ("getOwnPropertyNames", .object .ownNames, 1),
    ("getOwnPropertySymbols", .object .ownSymbols, 1),
    ("hasOwn", .object .hasOwn, 2), ("fromEntries", .object .fromEntries, 1),
    ("groupBy", .object .groupBy, 2)]

/-- The methods of all objects. -/
def commonRows : List Row :=
  [("hasOwnProperty", .object .hasOwnProperty, 1),
   ("propertyIsEnumerable", .object .isEnumerable, 1),
    ("toString", .object .toText, 0), ("toLocaleString", .object .toLocaleText, 0),
    ("valueOf", .object .valueOf, 0), ("isPrototypeOf", .object .isPrototypeOf, 1),
    ("__defineGetter__", .object .defineGetter, 2), ("__defineSetter__", .object .defineSetter, 2),
    ("__lookupGetter__", .object .lookUpGetter, 1), ("__lookupSetter__", .object .lookUpSetter, 1)]

def setUpObjects : Setup Unit := do
  let proto := Intrinsic.objectPrototype.ref
  let _ ← addConstructor "Object" (.object .construct) 1 proto (addMethods · objectRows) do
    let getter ← addFunction "get __proto__" (.object .readPrototype) 0
    let setter ← addFunction "set __proto__" (.object .writePrototype) 1
    put proto (.ofString "__proto__") ⟨.accessor (some getter) (some setter), false, true⟩
    addMethods proto commonRows

def setUpFunctions : Setup Unit := do
  let proto := Intrinsic.functionPrototype.ref
  let _ ← addConstructor "Function" (.function .construct) 1 proto nothingMore do
    addMethods proto [("apply", .function .apply, 2), ("bind", .function .bind, 1),
      ("call", .function .call, 1), ("toString", .function .toText, 0)]
    let f ← addFunction "[Symbol.hasInstance]" (.function .hasInstance) 1
    put proto WellKnown.hasInstance.key (.fixed (.object f))
    let thrower := some Intrinsic.throwingAccessor.ref
    ["caller", "arguments"].forM fun name =>
      put proto (.ofString name) ⟨.accessor thrower thrower, false, true⟩
  moveToEnd proto lengthKey
  moveToEnd proto (.ofString "name")

/-- The classes of errors with their names. -/
def errorClasses : List (ErrorClass × String) :=
  [(.typeError, "TypeError"), (.referenceError, "ReferenceError"), (.syntaxError, "SyntaxError"),
    (.rangeError, "RangeError"), (.evalError, "EvalError"), (.uriError, "URIError"),
    (.aggregateError, "AggregateError")]

def setUpErrors : Setup Unit := do
  let proto := Intrinsic.errorPrototype.ref
  let named (ref : Ref) (name : String) : Setup Unit := do
    putHidden ref "name" (.string (Text.units name))
    putHidden ref "message" (.string [])
  let base ← addConstructor "Error" (.error (.construct .error)) 1 proto nothingMore do
    named proto "Error"
    addMethods proto [("toString", .error .toText, 0)]
  let getter ← addFunction "get stack" (.error .readTrace) 0
  let setter ← addFunction "set stack" (.error .writeTrace) 1
  put proto (.ofString "stack") ⟨.accessor (some getter) (some setter), false, true⟩
  errorClasses.forM fun (cls, name) => do
    let ref ← addConstructor name (.error (.construct cls)) (if cls = .aggregateError then 2 else 1)
      cls.prototype.ref nothingMore (named cls.prototype.ref name)
    modify fun h => h.modify ref fun o => { o with proto := some base }

/-- Methods that typed arrays have in common with arrays. -/
def listMethods : List Row :=
  [("at", .array .itemAt, 1), ("every", .array .every, 1), ("fill", .array .fill, 1),
    ("find", .array .find, 1), ("findIndex", .array .findIndex, 1),
    ("findLast", .array .findLast, 1), ("findLastIndex", .array .findLastIndex, 1),
    ("forEach", .array .forEach, 1), ("includes", .array .includes, 1),
    ("indexOf", .array .indexOf, 1), ("join", .array .join, 1),
    ("lastIndexOf", .array .lastIndexOf, 1), ("reduce", .array .reduce, 1),
    ("reduceRight", .array .reduceRight, 1), ("reverse", .array .reverse, 0),
    ("some", .array .some, 1), ("entries", .array .entries, 0), ("keys", .array .keys, 0),
    ("toString", .array .toText, 0), ("toLocaleString", .array .toText, 0)]

/-- Gives an object the function that walks its items, under its name and under the symbol. -/
def addValues (ref : Ref) : Setup Unit := do
  let f ← addFunction "values" (.array .values) 0
  putHidden ref "values" (.object f)
  put ref WellKnown.iterator.key (.hidden (.object f))

/-- Gives a constructor the property that names it as the maker of like objects. -/
def addSpecies (ref : Ref) : Setup Unit :=
  addGetter ref WellKnown.species.key "[Symbol.species]" (.iterator .itself)

/-- The methods of arrays. -/
def arrayRows : List Row :=
  [("at", .array .itemAt, 1), ("concat", .array .concat, 1), ("copyWithin", .array .copyWithin, 2),
    ("entries", .array .entries, 0), ("every", .array .every, 1), ("fill", .array .fill, 1),
    ("filter", .array .filter, 1), ("find", .array .find, 1), ("findIndex", .array .findIndex, 1),
    ("findLast", .array .findLast, 1), ("findLastIndex", .array .findLastIndex, 1),
    ("flat", .array .flat, 0), ("flatMap", .array .flatMap, 1), ("forEach", .array .forEach, 1),
    ("includes", .array .includes, 1), ("indexOf", .array .indexOf, 1), ("join", .array .join, 1),
    ("keys", .array .keys, 0), ("lastIndexOf", .array .lastIndexOf, 1), ("map", .array .map, 1),
    ("pop", .array .pop, 0), ("push", .array .push, 1), ("reduce", .array .reduce, 1),
    ("reduceRight", .array .reduceRight, 1), ("reverse", .array .reverse, 0),
    ("shift", .array .shift, 0), ("slice", .array .slice, 2), ("some", .array .some, 1),
    ("sort", .array .sort, 1), ("splice", .array .splice, 2), ("toLocaleString", .array .toText, 0),
    ("toReversed", .array .toReversed, 0), ("toSorted", .array .toSorted, 1),
    ("toSpliced", .array .toSpliced, 2), ("toString", .array .toText, 0),
    ("unshift", .array .unshift, 1), ("with", .array .withItem, 2)]

def setUpArrays : Setup Unit := do
  let proto := Intrinsic.arrayPrototype.ref
  let ref := Intrinsic.arrayConstructor.ref
  addMethods ref [("from", .array .fromItems, 1), ("isArray", .array .isArray, 1),
    ("of", .array .ofItems, 0)]
  addSpecies ref
  addValues proto
  addMethods proto arrayRows
  tie ref proto
  addGlobal "Array" ref

def setUpIterators : Setup Unit := do
  addSymbolMethod Intrinsic.iteratorPrototype.ref .iterator "[Symbol.iterator]"
    (.iterator .itself) 0
  let kinds : List (Intrinsic × String) :=
    [(.arrayIteratorPrototype, "Array Iterator"), (.textIteratorPrototype, "String Iterator"),
      (.mapIteratorPrototype, "Map Iterator"), (.setIteratorPrototype, "Set Iterator"),
      (.generatorPrototype, "Generator")]
  kinds.forM fun (i, tag) => do
    addMethods i.ref [("next", .iterator .next, 0)]
    addTag i.ref tag

def setUpTexts : Setup Unit := do
  let proto := Intrinsic.stringPrototype.ref
  let _ ← addConstructor "String" (.string .construct) 1 proto
    (addMethods · [("raw", .string .raw, 1), ("fromCharCode", .string .fromCharCode, 1),
      ("fromCodePoint", .string .fromCodePoint, 1)]) do
    addMethods proto [("at", .string .itemAt, 1), ("charAt", .string .charAt, 1),
      ("charCodeAt", .string .charCodeAt, 1),
      ("codePointAt", .string .codePointAt, 1), ("concat", .string .concat, 1),
      ("endsWith", .string .endsWith, 1), ("includes", .string .includes, 1),
      ("indexOf", .string .indexOf, 1), ("isWellFormed", .string .isWellFormed, 0),
      ("lastIndexOf", .string .lastIndexOf, 1), ("localeCompare", .string .compare, 1),
      ("normalize", .string .normalize, 0), ("padEnd", .string .padEnd, 1),
      ("padStart", .string .padStart, 1), ("repeat", .string .repeated, 1),
      ("replace", .string .replaceFirst, 2), ("replaceAll", .string .replaceAll, 2),
      ("slice", .string .slice, 2), ("split", .string .split, 2),
      ("startsWith", .string .startsWith, 1), ("substring", .string .substring, 2),
      ("toLocaleLowerCase", .string .toLower, 0),
      ("toLocaleUpperCase", .string .toUpper, 0), ("toLowerCase", .string .toLower, 0),
      ("toString", .string .toText, 0), ("toUpperCase", .string .toUpper, 0),
      ("toWellFormed", .string .toWellFormed, 0), ("trim", .string .trim, 0),
      ("trimEnd", .string .trimEnd, 0), ("trimStart", .string .trimStart, 0),
      ("valueOf", .string .toText, 0)]
    addSymbolMethod proto .iterator "[Symbol.iterator]" (.string .iterator) 0

/-- The numbers that the number constructor holds. -/
def numberConstants : List (String × Float) :=
  [("EPSILON", Float.ofBits 0x3CB0000000000000), ("MAX_SAFE_INTEGER", 9007199254740991),
    ("MIN_SAFE_INTEGER", -9007199254740991), ("MAX_VALUE", Float.ofBits 0x7FEFFFFFFFFFFFFF),
    ("MIN_VALUE", Float.ofBits 1), ("NEGATIVE_INFINITY", -infinity),
    ("POSITIVE_INFINITY", infinity),
    ("NaN", notNumber)]

/-- Gives an object numbers that never change. -/
def addConstants (ref : Ref) (constants : List (String × Float)) : Setup Unit :=
  constants.forM fun (name, x) => put ref (.ofString name) (.fixed (.number x))

def setUpNumbers : Setup Unit := do
  let number := Intrinsic.numberPrototype.ref
  let parsers : List Row :=
    [("parseInt", .number .readInteger, 2), ("parseFloat", .number .readFloat, 1)]
  let statics (ref : Ref) : Setup Unit := do
    addConstants ref numberConstants
    parsers.forM fun (name, op, length) => do
      let f ← addFunction name op length
      putHidden ref name (.object f)
      addGlobal name f
    addMethods ref [("isFinite", .number .isFinite, 1), ("isInteger", .number .isInteger, 1),
      ("isNaN", .number .isNotNumber, 1), ("isSafeInteger", .number .isSafeInteger, 1)]
  let _ ← addConstructor "Number" (.number .construct) 1 number statics do
    addMethods number [("toExponential", .number .toExponential, 1),
      ("toFixed", .number .toFixed, 1),
      ("toLocaleString", .number .toText, 0), ("toPrecision", .number .toPrecision, 1),
      ("toString", .number .toText, 1), ("valueOf", .number .valueOf, 0)]

def setUpPrimitives : Setup Unit := do
  let boolean := Intrinsic.booleanPrototype.ref
  let _ ← addConstructor "Boolean" (.primitive .makeBoolean) 1 boolean nothingMore do
    addMethods boolean [("toString", .primitive .booleanText, 0),
      ("valueOf", .primitive .booleanValue, 0)]
  let symbol := Intrinsic.symbolPrototype.ref
  let statics (ref : Ref) : Setup Unit := do
    WellKnown.byLabel.forM fun w => put ref (.ofString w.label) (.fixed (.symbol w.id))
    addMethods ref [("for", .primitive .symbolFor, 1), ("keyFor", .primitive .symbolKey, 1)]
  let _ ← addConstructor "Symbol" (.primitive .makeSymbol) 0 symbol statics do
    addMethods symbol [("toString", .primitive .symbolText, 0),
      ("valueOf", .primitive .symbolValue, 0)]
    addGetter symbol (.ofString "description") "description" (.primitive .symbolDescription)
    addTag symbol "Symbol"
    let f ← addFunction "[Symbol.toPrimitive]" (.primitive .symbolValue) 1
    put symbol WellKnown.toPrimitive.key (.readOnly (.object f))
  let bigint := Intrinsic.bigintPrototype.ref
  let statics (ref : Ref) : Setup Unit :=
    addMethods ref [("asIntN", .primitive (.bigintWord true), 2),
      ("asUintN", .primitive (.bigintWord false), 2)]
  let _ ← addConstructor "BigInt" (.primitive .makeBigint) 1 bigint statics do
    addMethods bigint [("toString", .primitive .bigintText, 0),
      ("valueOf", .primitive .bigintValue, 0)]
    addTag bigint "BigInt"

/-- The numbers that the arithmetic object holds. -/
def mathConstants : List (String × Float) :=
  [("E", Float.ofBits 0x4005BF0A8B145769), ("LN10", Float.ofBits 0x40026BB1BBB55516),
    ("LN2", Float.ofBits 0x3FE62E42FEFA39EF), ("LOG10E", Float.ofBits 0x3FDBCB7B1526E50E),
    ("LOG2E", Float.ofBits 0x3FF71547652B82FE), ("PI", Float.ofBits 0x400921FB54442D18),
    ("SQRT1_2", Float.ofBits 0x3FE6A09E667F3BCD), ("SQRT2", Float.ofBits 0x3FF6A09E667F3BCD)]

/-- The arithmetic functions. -/
def mathRows : List (String × MathOp × Nat) :=
  [("abs", .abs, 1), ("acos", .acos, 1), ("acosh", .acosh, 1), ("asin", .asin, 1),
    ("asinh", .asinh, 1), ("atan", .atan, 1), ("atanh", .atanh, 1), ("atan2", .atan2, 2),
    ("cbrt", .cbrt, 1), ("ceil", .ceil, 1), ("clz32", .clz32, 1), ("cos", .cos, 1),
    ("cosh", .cosh, 1), ("exp", .exp, 1), ("expm1", .expm1, 1), ("floor", .floor, 1),
    ("fround", .fround, 1), ("hypot", .hypot, 2), ("imul", .imul, 2), ("log", .log, 1),
    ("log1p", .log1p, 1), ("log10", .log10, 1), ("log2", .log2, 1), ("max", .max, 2),
    ("min", .min, 2), ("pow", .pow, 2), ("random", .random, 0), ("round", .round, 1),
    ("sign", .sign, 1), ("sin", .sin, 1), ("sinh", .sinh, 1), ("sqrt", .sqrt, 1), ("tan", .tan, 1),
    ("tanh", .tanh, 1), ("trunc", .trunc, 1)]

/-- An ordinary object in a property of the global object. -/
def addNamespace (name : String) (constants : List (String × Float)) (rows : List Row) :
    Setup Unit := do
  let ref ← add (.empty (some Intrinsic.objectPrototype.ref) .ordinary)
  addConstants ref constants
  addMethods ref rows
  addTag ref name
  addGlobal name ref

def setUpNamespaces : Setup Unit := do
  addNamespace "Math" mathConstants
    (mathRows.map fun (name, op, length) => (name, .math op, length))
  addNamespace "JSON" [] [("parse", .globals .parseJson, 2), ("stringify", .globals .stringify, 3)]
  addNamespace "Reflect" []
    [("apply", .reflect .apply, 3), ("construct", .reflect .construct, 2),
      ("defineProperty", .reflect .defineProperty, 3),
      ("deleteProperty", .reflect .deleteProperty, 2), ("get", .reflect .get, 2),
      ("getOwnPropertyDescriptor", .reflect .ownDescriptor, 2),
      ("getPrototypeOf", .reflect .prototypeOf, 1), ("has", .reflect .has, 2),
      ("isExtensible", .reflect .isExtensible, 1), ("ownKeys", .reflect .ownKeys, 1),
      ("preventExtensions", .reflect .preventExtensions, 1), ("set", .reflect .set, 3),
      ("setPrototypeOf", .reflect .setPrototypeOf, 2)]
  addNamespace "Atomics" [] []

def setUpDates : Setup Unit := do
  let proto := Intrinsic.datePrototype.ref
  let statics (ref : Ref) : Setup Unit :=
    addMethods ref [("now", .date .now, 0), ("parse", .date .parse, 1), ("UTC", .date .utc, 7)]
  let _ ← addConstructor "Date" (.date .construct) 7 proto statics do
    addMethods proto [("getTime", .date .time, 0), ("valueOf", .date .time, 0),
      ("setTime", .date .setTime, 1),
      ("getFullYear", .date .year, 0), ("getUTCFullYear", .date .year, 0),
      ("getMonth", .date .month, 0), ("getUTCMonth", .date .month, 0), ("getDate", .date .day, 0),
      ("getUTCDate", .date .day, 0), ("getDay", .date .weekday, 0),
      ("getUTCDay", .date .weekday, 0),
      ("getHours", .date .hours, 0), ("getUTCHours", .date .hours, 0),
      ("getMinutes", .date .minutes, 0), ("getUTCMinutes", .date .minutes, 0),
      ("getSeconds", .date .seconds, 0), ("getUTCSeconds", .date .seconds, 0),
      ("getMilliseconds", .date .milliseconds, 0), ("getUTCMilliseconds", .date .milliseconds, 0),
      ("getTimezoneOffset", .date .zoneOffset, 0), ("toISOString", .date .isoText, 0),
      ("toJSON", .date .json, 1), ("toString", .date .text, 0), ("toUTCString", .date .utcText, 0)]
    let f ← addFunction "[Symbol.toPrimitive]" (.date .toPrimitive) 1
    put proto WellKnown.toPrimitive.key (.readOnly (.object f))

def setUpRegexps : Setup Unit := do
  let regexp := Intrinsic.regexpPrototype.ref
  let flags : List (String × Char) :=
    [("hasIndices", 'd'), ("global", 'g'), ("ignoreCase", 'i'), ("multiline", 'm'), ("dotAll", 's'),
      ("unicode", 'u'), ("unicodeSets", 'v'), ("sticky", 'y')]
  let _ ← addConstructor "RegExp" (.regexp .construct) 2 regexp addSpecies do
    addMethods regexp [("toString", .regexp .toText, 0)]
    flags.forM fun (name, c) => addGetter regexp (.ofString name) name (.regexp (.hasFlag c))
    addGetter regexp (.ofString "flags") "flags" (.regexp .flags)
    addGetter regexp (.ofString "source") "source" (.regexp .source)

def setUpCollections : Setup Unit := do
  let of (kind : CollectionKind) (op : CollectionOp) : Builtin := .collection kind op
  let map := Intrinsic.mapPrototype.ref
  let _ ← addConstructor "Map" (of .map .construct) 0 map addSpecies do
    let f ← addFunction "entries" (of .map .entries) 0
    putHidden map "entries" (.object f)
    addTag map "Map"
    put map WellKnown.iterator.key (.hidden (.object f))
    addMethods map [("clear", of .map .clear, 0), ("delete", of .map .delete, 1),
      ("forEach", of .map .forEach, 1), ("get", of .map .get, 1), ("has", of .map .has, 1),
      ("keys", of .map .keys, 0), ("set", of .map .set, 2), ("values", of .map .values, 0)]
    addGetter map (.ofString "size") "size" (of .map .size)
  let set := Intrinsic.setPrototype.ref
  let _ ← addConstructor "Set" (of .set .construct) 0 set addSpecies do
    addMethods set [("add", of .set .add, 1), ("clear", of .set .clear, 0),
      ("delete", of .set .delete, 1),
      ("entries", of .set .entries, 0), ("forEach", of .set .forEach, 1), ("has", of .set .has, 1)]
    let f ← addFunction "values" (of .set .values) 0
    putHidden set "keys" (.object f)
    addGetter set (.ofString "size") "size" (of .set .size)
    putHidden set "values" (.object f)
    put set WellKnown.iterator.key (.hidden (.object f))
    addTag set "Set"
  let weakMap := Intrinsic.weakMapPrototype.ref
  let _ ← addConstructor "WeakMap" (of .weakMap .construct) 0 weakMap nothingMore do
    addTag weakMap "WeakMap"
    addMethods weakMap [("delete", of .weakMap .delete, 1), ("get", of .weakMap .get, 1),
      ("has", of .weakMap .has, 1), ("set", of .weakMap .set, 2)]
  let weakSet := Intrinsic.weakSetPrototype.ref
  let _ ← addConstructor "WeakSet" (of .weakSet .construct) 0 weakSet nothingMore do
    addTag weakSet "WeakSet"
    addMethods weakSet [("add", of .weakSet .add, 1), ("delete", of .weakSet .delete, 1),
      ("has", of .weakSet .has, 1)]

/-- The constructors of typed arrays. -/
def typedArrays : List (String × ElementType) :=
  [("Int8Array", .int8), ("Uint8Array", .uint8), ("Uint8ClampedArray", .uint8Clamped),
    ("Int16Array", .int16), ("Uint16Array", .uint16), ("Int32Array", .int32),
    ("Uint32Array", .uint32), ("Float32Array", .float32), ("Float64Array", .float64),
    ("BigInt64Array", .bigInt64), ("BigUint64Array", .bigUint64)]

def setUpBinaryData : Setup Unit := do
  let common := Intrinsic.typedArrayPrototype.ref
  let base ← add (builtinObject (.binaryData .refuse) "TypedArray" 0 true)
  addSpecies base
  addMethods common listMethods
  addValues common
  addGetter common (.ofString "length") "length" (.binaryData .length)
  addGetter common (.ofString "byteLength") "byteLength" (.binaryData .byteLength)
  tie base common
  typedArrays.forM fun (name, element) => do
    let proto ← add (.empty (some common) .ordinary)
    let ref ← addConstructor name (.binaryData (.makeTyped element)) 3 proto nothingMore
      (addTag proto name)
    modify fun h => h.modify ref fun o => { o with proto := some base }
  let buffer := Intrinsic.bufferPrototype.ref
  let _ ← addConstructor "ArrayBuffer" (.binaryData .makeBuffer) 1 buffer nothingMore do
    addGetter buffer (.ofString "byteLength") "byteLength" (.binaryData .bufferLength)
    addTag buffer "ArrayBuffer"

def setUpRest : Setup Unit := do
  let plain (name : String) (length : Nat) : Setup Unit := do
    let proto ← add (.empty (some Intrinsic.objectPrototype.ref) .ordinary)
    let _ ← addConstructor name (.globals .makePlain) length proto nothingMore (addTag proto name)
  plain "DataView" 1
  plain "FinalizationRegistry" 1
  plain "SharedArrayBuffer" 1
  plain "WeakRef" 1
  let promise := Intrinsic.promisePrototype.ref
  let statics (ref : Ref) : Setup Unit :=
    addMethods ref (["all", "allSettled", "any", "race", "reject", "resolve"].map fun name =>
      (name, .globals .promiseSettle, 1))
  let _ ← addConstructor "Promise" (.globals .makePromise) 1 promise statics do
    addMethods promise [("then", .globals .promiseThen, 2), ("catch", .globals .promiseThen, 1),
      ("finally", .globals .promiseThen, 1)]
    addTag promise "Promise"
  let proxy ← add (builtinObject (.reflect .makeProxy) "Proxy" 2 true)
  addMethods proxy [("revocable", .reflect .makeRevocable, 2)]
  addGlobal "Proxy" proxy
  let global := Intrinsic.global.ref
  addGlobal "globalThis" global
  addMethods global
    [("eval", .globals .evaluate, 1), ("isFinite", .globals .isFinite, 1),
      ("isNaN", .globals .isNotNumber, 1), ("encodeURI", .globals .encodeWhole, 1),
      ("encodeURIComponent", .globals .encodeComponent, 1),
      ("decodeURI", .globals .decodeWhole, 1),
      ("decodeURIComponent", .globals .decodeComponent, 1)]
  put global (.ofString "Infinity") (.fixed (.number infinity))
  put global (.ofString "NaN") (.fixed (.number notNumber))
  put global (.ofString "undefined") (.fixed .undefined)

/-- All objects of a new machine. -/
def setUp : Setup Unit := do
  Intrinsic.all.forM fun i => do
    let _ ← add (bare i)
  setUpObjects
  setUpFunctions
  setUpErrors
  setUpArrays
  setUpIterators
  setUpTexts
  setUpNumbers
  setUpPrimitives
  setUpNamespaces
  setUpDates
  setUpRegexps
  setUpCollections
  setUpBinaryData
  setUpRest

end Realm

/-- The state of a new machine. -/
def freshState : State :=
  let heap := (Realm.setUp.run ⟨#[]⟩).2
  { heap := heap
    scopes := #[⟨[], none, none, true, none⟩]
    symbols := (WellKnown.all.map fun w => some (Text.units ("Symbol." ++ w.label))).toArray
    registered := []
    frames := []
    converting := [] }

end ScriptHost.Script
