import ScriptHost.Text.Unit

/-!
# Script values

The values that a script machine computes with.  Objects live in the machine's store and are known
here only by reference.
-/

namespace ScriptHost

/-- The place of an object in the machine's store. -/
abbrev Ref := Nat

/-- Script text: 16-bit units, not necessarily paired. -/
abbrev Units := List UInt16

/-- A value of the script. -/
inductive ScriptValue
  | undefined
  | null
  | boolean (b : Bool)
  | number (x : Float)
  | string (text : Units)
  /-- A symbol, told apart from others by its number. -/
  | symbol (id : Nat)
  | bigint (n : Int)
  | object (ref : Ref)
  deriving DecidableEq, Inhabited

/-- How an object looks to the host. -/
inductive Shape
  | plain
  | array
  | function
  deriving DecidableEq, Repr

/-- The constructors whose errors the host may throw. -/
inductive ErrorKind
  | error
  | typeError
  | referenceError
  | syntaxError
  | rangeError
  deriving DecidableEq, Repr

/-- Where a host function stands in the table of those that a machine was given. -/
structure NativeId where
  index : Nat
  deriving DecidableEq, Repr

end ScriptHost
