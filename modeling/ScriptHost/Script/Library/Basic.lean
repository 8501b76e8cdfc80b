import ScriptHost.Script.Call
import ScriptHost.Script.Describe

/-!
# Calls of built-in functions

What a built-in function is called with, and what the library's functions share.
-/

namespace ScriptHost.Script

/-- A call of a built-in function. -/
structure Invocation where
  this : ScriptValue
  args : List ScriptValue
  /-- What is being constructed, if anything is. -/
  target : Option Ref

namespace Invocation

/-- An argument; a missing one is the missing value. -/
def arg (i : Invocation) (n : Nat) : ScriptValue := i.args[n]?.getD .undefined

end Invocation

namespace Run

/-- A string as a value. -/
def textValue (s : String) : ScriptValue := .string (Text.units s)

/-- The object that a value is; throws with a message for all others. -/
def requireRef (message : String) (v : ScriptValue) : Run Ref := do
  match v with
  | .object ref => pure ref
  | _ => throwTypeError message

/-- The function that a value is; throws with a message for all others. -/
def requireFunction (message : String) (v : ScriptValue) : Run Ref := do
  if ← isCallable v then requireRef message v else throwTypeError message

/-- The position that a relative index means: negative ones count from the end, and all are kept
within the length. -/
def relativeIndex (v : ScriptValue) (length : Nat) (missing : Nat) : Run Nat := do
  match v with
  | .undefined => pure missing
  | v =>
    let x ← toInteger v
    if x < 0 then
      let n := floatInt x + (length : Int)
      pure (if n < 0 then 0 else n.toNat)
    else pure (min length (floatInt x).toNat)

/-- A truth value. -/
def flag (b : Bool) : Run ScriptValue := pure (.boolean b)

end Run

end ScriptHost.Script
