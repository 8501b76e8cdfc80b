import ScriptHost.Crossing.Thrown

/-!
# Host values to script values

`Marshaller.push` leaves one new slot on success and none on failure.
-/

namespace ScriptHost

open Stack Crossing

variable {M : Machine} {δ ε : Type}

/-- The message for a value that nests too deep. -/
def tooDeep (maxDepth : Nat) : String := s!"value nesting exceeds maximum depth of {maxDepth}"

/-- The error for a value without a script form. -/
def unsupported (v : HostValue) : Error := .argumentType ("unsupported type " ++ v.typeName)

namespace Marshaller

variable (m : Marshaller)

mutual

/-- Pushes the value at nesting `level`; what it pushed before a failure is left there. -/
def pushValue (level : Nat) (v : HostValue) : Crossing M δ Error Unit :=
  if m.maxDepth < level then .fail (.argumentType (tooDeep m.maxDepth))
  else
    match v with
    | .null => pushNull
    | .boolean b => pushBoolean b
    | .number x => pushNumber x
    | .string s => pushString (Text.utf8 s)
    | .array items => do
      let array ← pushArray
      pushItems level array items
    | .map entries => do
      let object ← pushObject
      pushEntries level object entries
    | .callable f => pushNative "" ⟨f, m⟩
    | v => .fail (unsupported v)

/-- Appends the items to the array in slot `array`. -/
def pushItems (level array : Nat) : List HostValue → Crossing M δ Error Unit
  | [] => pure ()
  | item :: rest => do
    pushValue (level + 1) item
    check (append array)
    pushItems level array rest

/-- Defines the entries on the object in slot `object`. -/
def pushEntries (level object : Nat) : List (HostValue × HostValue) → Crossing M δ Error Unit
  | [] => pure ()
  | (key, item) :: rest =>
    match key with
    | .string name => do
      pushValue (level + 1) item
      check (putProp object (Text.utf8 name))
      pushEntries level object rest
    | key => .fail (unsupported key)

end

/-- Pushes `v` as one script value, or nothing. -/
def push (v : HostValue) : Crossing M δ Error Unit := do
  let base ← depth
  match ← (m.pushValue 0 v).attempt with
  | .ok () => pure ()
  | .error e =>
    setDepth base
    .fail e

end Marshaller

end ScriptHost
