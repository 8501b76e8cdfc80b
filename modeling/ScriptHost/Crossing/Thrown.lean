import ScriptHost.Crossing.Host

/-!
# Thrown values as errors

`classify` turns the failure of a primitive into an error while the thrown value is still on top,
and takes it off.  Name, message and trace are read first, each one absent when it cannot be had.
-/

namespace ScriptHost.Crossing

open Stack

variable {M : Machine} {δ ε α : Type}

/-- The text of a property as script would print it; nothing if the property is missing, null, or
cannot be read or printed. -/
def textProp (index : Nat) (key : String) : Crossing M δ ε (Option String) := do
  let base ← depth
  let text ← match ← (getProp index (Text.utf8 key)).attempt with
    | .ok _ =>
      if (← slotType base).isNullish then pure none else displayText base
    | .error _ => pure none
  setDepth base
  pure (text.map Text.fromEngineTextLossy)

/-- The error of the thrown value in slot `index`. -/
def readThrown (index : Nat) : Crossing M δ ε Error := do
  let kind ← slotType index
  let isObject := kind = .object ∨ kind = .array ∨ kind = .function
  let name ← if isObject then textProp index "name" else pure none
  let message ← if isObject then textProp index "message" else pure none
  let trace ← if isObject then textProp index "stack" else pure none
  let message ← match message with
    | some text => pure text
    | none => do
      match ← displayText index with
      | some text => pure (Text.fromEngineTextLossy text)
      | none => pure "unprintable thrown value"
  pure <| match name with
    | some "ReferenceError" => .reference message
    | some "TypeError" => .typeError message
    | some "SyntaxError" => .malformedSource message
    | name => .script (name.getD "Error") message trace

/-- Fails with the error of a primitive's failure; a thrown value is taken off the stack. -/
def classify : EngineError → Crossing M δ Error α
  | .fatal reason => .fail (.internal reason)
  | .thrown => do
    match ← depth with
    | 0 => (poison "thrown value missing from stack").mapError Error.ofEngineError
    | top + 1 =>
      let e ← readThrown top
      setDepth top
      .fail e

/-- The primitive with its failure classified. -/
def check (x : Crossing M δ EngineError α) : Crossing M δ Error α := do
  match ← x.attempt with
  | .ok a => pure a
  | .error e => classify e

end ScriptHost.Crossing
