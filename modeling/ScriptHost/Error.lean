import ScriptHost.Text.HostText

/-!
# Errors

`Error` is everything that an operation on a context can fail with.  What a script throws keeps the
name and the message of the thrown value.  `EngineError` is how a primitive of the value stack
fails: either the thrown value is on top of the stack, or something is broken for good.
-/

namespace ScriptHost

/-- Why a primitive of the value stack failed. -/
inductive EngineError
  /-- A script value was thrown; it is the top slot. -/
  | thrown
  /-- An internal rule was broken. -/
  | fatal (reason : String)
  deriving DecidableEq, Repr

namespace EngineError

/-- The text of the error. -/
def message : EngineError → String
  | thrown => "script threw a value"
  | fatal reason => s!"fatal engine error: {reason}"

def isFatal : EngineError → Bool
  | thrown => false
  | fatal _ => true

end EngineError

/-- The reason why an operation failed. -/
inductive Error
  /-- A host value has no form in the script. -/
  | argumentType (message : String)
  /-- The script's reference error, or a path whose root is missing. -/
  | reference (message : String)
  /-- The script's type error, or a path through a missing value. -/
  | typeError (message : String)
  /-- The source could not be read. -/
  | malformedSource (message : String)
  /-- Any other thrown value, perhaps with its trace. -/
  | script (name message : String) (trace : Option String)
  | encoding (error : Text.EncodingError)
  /-- The engine was aborted. -/
  | internal (message : String)
  deriving DecidableEq, Repr

namespace Error

/-- The stable name of the error's kind; a script error answers with the thrown value's name. -/
def kindName : Error → String
  | argumentType _ => "ArgumentTypeError"
  | reference _ => "ReferenceError"
  | typeError _ => "TypeError"
  | malformedSource _ => "SyntaxError"
  | script name _ _ => name
  | encoding _ => "EncodingError"
  | internal _ => "InternalError"

/-- The message without the name of the kind. -/
def message : Error → String
  | argumentType m | reference m | typeError m | malformedSource m | script _ m _ | internal m => m
  | encoding e => e.message

/-- The whole text of the error. -/
def text : Error → String
  | argumentType m => s!"Argument type error: {m}"
  | encoding e => "Encoding error: " ++ e.message
  | internal m => s!"Internal error: {m}"
  | e => e.kindName ++ ": " ++ e.message

/-- The error was raised by script code, or could have been. -/
def isScriptError : Error → Bool
  | reference _ | typeError _ | malformedSource _ | script .. => true
  | _ => false

/-- The context that the error comes from can no longer be used. -/
def isFatal : Error → Bool
  | internal _ => true
  | _ => false

/-- The trace of a script error, if it has one. -/
def trace? : Error → Option String
  | script _ _ trace => trace
  | _ => none

/-- A failure of the stack that nobody classified. -/
def ofEngineError : EngineError → Error
  | .fatal reason => internal reason
  | .thrown => internal "unclassified script exception"

end Error

end ScriptHost
