/-!
# Built-in functions

The names of the functions that a machine brings along, by the object that they belong to.  What
each does is in `ScriptHost.Script.Library`; where each is found is in `ScriptHost.Script.Realm`.
-/

namespace ScriptHost.Script

/-- Functions of objects in general. -/
inductive ObjectOp
  | construct
  | assign
  | create
  | defineProperties
  | defineProperty
  | entries
  | freeze
  | fromEntries
  | ownDescriptor
  | ownDescriptors
  | ownNames
  | ownSymbols
  | prototypeOf
  | hasOwn
  | sameValue
  | isExtensible
  | isFrozen
  | isSealed
  | keys
  | preventExtensions
  | sealUp
  | setPrototypeOf
  | values
  | hasOwnProperty
  | isPrototypeOf
  | isEnumerable
  | toLocaleText
  | toText
  | valueOf
  | readPrototype
  | writePrototype
  | defineGetter
  | defineSetter
  | lookUpGetter
  | lookUpSetter
  | groupBy
  deriving DecidableEq, Repr

/-- Functions of functions. -/
inductive FunctionOp
  | construct
  /-- The prototype of functions, itself a function that does nothing. -/
  | nothing
  | apply
  | bind
  | call
  | toText
  | hasInstance
  deriving DecidableEq, Repr

/-- The classes of errors. -/
inductive ErrorClass
  | error
  | typeError
  | referenceError
  | syntaxError
  | rangeError
  | evalError
  | uriError
  | aggregateError
  deriving DecidableEq, Repr

/-- Functions of errors. -/
inductive ErrorOp
  | construct (cls : ErrorClass)
  | toText
  | readTrace
  | writeTrace
  deriving DecidableEq, Repr

/-- Functions of arrays. -/
inductive ArrayOp
  | construct
  | isArray
  | fromItems
  | ofItems
  | itemAt
  | concat
  | copyWithin
  | entries
  | every
  | fill
  | filter
  | find
  | findIndex
  | findLast
  | findLastIndex
  | flat
  | flatMap
  | forEach
  | includes
  | indexOf
  | join
  | keys
  | lastIndexOf
  | map
  | pop
  | push
  | reduce
  | reduceRight
  | reverse
  | shift
  | slice
  | some
  | sort
  | splice
  | toReversed
  | toSorted
  | toSpliced
  | toText
  | unshift
  | values
  | withItem
  deriving DecidableEq, Repr

/-- Functions of iterators and of what is iterated. -/
inductive IteratorOp
  /-- Answers with the receiver. -/
  | itself
  | next
  deriving DecidableEq, Repr

/-- Functions of text. -/
inductive StringOp
  | construct
  | raw
  | fromCharCode
  | fromCodePoint
  | itemAt
  | charAt
  | charCodeAt
  | codePointAt
  | concat
  | endsWith
  | includes
  | indexOf
  | lastIndexOf
  | compare
  | normalize
  | padEnd
  | padStart
  | repeated
  | replaceFirst
  | replaceAll
  | slice
  | split
  | startsWith
  | substring
  | toLower
  | toText
  | toUpper
  | trim
  | trimEnd
  | trimStart
  | iterator
  | isWellFormed
  | toWellFormed
  deriving DecidableEq, Repr

/-- Functions of numbers. -/
inductive NumberOp
  | construct
  | isFinite
  | isInteger
  | isNotNumber
  | isSafeInteger
  | readFloat
  | readInteger
  | toExponential
  | toFixed
  | toPrecision
  | toText
  | valueOf
  deriving DecidableEq, Repr

/-- Functions of truth values, symbols and big integers. -/
inductive PrimitiveOp
  | makeBoolean
  | booleanText
  | booleanValue
  | makeSymbol
  | symbolFor
  | symbolKey
  | symbolText
  | symbolValue
  | symbolDescription
  | makeBigint
  | bigintText
  | bigintValue
  /-- The integer kept in a number of bits. -/
  | bigintWord (isSigned : Bool)
  deriving DecidableEq, Repr

/-- Functions of arithmetic. -/
inductive MathOp
  | abs
  | acos
  | acosh
  | asin
  | asinh
  | atan
  | atanh
  | atan2
  | cbrt
  | ceil
  | clz32
  | cos
  | cosh
  | exp
  | expm1
  | floor
  | fround
  | hypot
  | imul
  | log
  | log1p
  | log10
  | log2
  | max
  | min
  | pow
  | random
  | round
  | sign
  | sin
  | sinh
  | sqrt
  | tan
  | tanh
  | trunc
  deriving DecidableEq, Repr

/-- Functions of dates. -/
inductive DateOp
  | construct
  | now
  | parse
  | utc
  | time
  | setTime
  | year
  | month
  | day
  | weekday
  | hours
  | minutes
  | seconds
  | milliseconds
  | zoneOffset
  | isoText
  | json
  | text
  | utcText
  | toPrimitive
  deriving DecidableEq, Repr

/-- Functions of patterns. -/
inductive RegexpOp
  | construct
  | toText
  | source
  | flags
  | hasFlag (flag : Char)
  deriving DecidableEq, Repr

/-- The kinds of keyed collections. -/
inductive CollectionKind
  | map
  | set
  | weakMap
  | weakSet
  deriving DecidableEq, Repr

/-- Functions of keyed collections. -/
inductive CollectionOp
  | construct
  | get
  | set
  | add
  | has
  | delete
  | clear
  | size
  | forEach
  | entries
  | keys
  | values
  deriving DecidableEq, Repr

/-- Functions of proxies and of reflection. -/
inductive ReflectOp
  | makeProxy
  | makeRevocable
  /-- Takes target and handler from a proxy. -/
  | revoke (proxy : Nat)
  | apply
  | construct
  | defineProperty
  | deleteProperty
  | get
  | ownDescriptor
  | prototypeOf
  | has
  | isExtensible
  | ownKeys
  | preventExtensions
  | set
  | setPrototypeOf
  deriving DecidableEq, Repr

/-- The element types of typed arrays. -/
inductive ElementType
  | int8
  | uint8
  | uint8Clamped
  | int16
  | uint16
  | int32
  | uint32
  | float32
  | float64
  | bigInt64
  | bigUint64
  deriving DecidableEq, Repr

/-- Functions of typed arrays and buffers. -/
inductive BinaryDataOp
  | makeTyped (element : ElementType)
  | refuse
  | length
  | byteLength
  | makeBuffer
  | bufferLength
  deriving DecidableEq, Repr

/-- Functions of the global object and others that stand alone. -/
inductive GlobalOp
  | stringify
  | parseJson
  | evaluate
  | isFinite
  | isNotNumber
  | encodeComponent
  | encodeWhole
  | decodeComponent
  | decodeWhole
  | makePromise
  | promiseThen
  | promiseSettle
  /-- Does nothing. -/
  | ignore
  /-- Makes an ordinary object, and only by construction. -/
  | makePlain
  /-- Always throws. -/
  | refuse
  deriving DecidableEq, Repr

/-- A built-in function. -/
inductive Builtin
  | object (op : ObjectOp)
  | function (op : FunctionOp)
  | error (op : ErrorOp)
  | array (op : ArrayOp)
  | iterator (op : IteratorOp)
  | string (op : StringOp)
  | number (op : NumberOp)
  | primitive (op : PrimitiveOp)
  | math (op : MathOp)
  | date (op : DateOp)
  | regexp (op : RegexpOp)
  | collection (kind : CollectionKind) (op : CollectionOp)
  | reflect (op : ReflectOp)
  | binaryData (op : BinaryDataOp)
  | globals (op : GlobalOp)
  deriving DecidableEq, Repr

end ScriptHost.Script
