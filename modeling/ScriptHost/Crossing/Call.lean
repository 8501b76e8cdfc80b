import ScriptHost.Crossing.Pop

/-!
# Calls from script into the host

`invoke` converts the arguments from left to right, runs the host function and pushes its result.  A
conversion that fails throws a type error into the script;
so does a result that cannot be converted.
-/

namespace ScriptHost.Crossing

open Stack

variable {M : Machine} {δ ε : Type}

/-- The constructor for an error of a host function. -/
def kindOf : Error → ErrorKind
  | .reference _ => .referenceError
  | .typeError _ | .argumentType _ => .typeError
  | .malformedSource _ => .syntaxError
  | _ => .error

/-- Throws an error into the script, unless the stack is beyond saving. -/
def throwInto (kind : ErrorKind) (e : Error) : Crossing M δ EngineError Bool := do
  if ← isPoisoned then .fail (.fatal e.message)
  pushError kind e.message
  .fail .thrown

/-- Converts the `count` arguments from slot `next` on. -/
def readArguments (m : Marshaller) :
    (count next : Nat) → Crossing M δ EngineError (Except Error (List HostValue))
  | 0, _ => pure (.ok [])
  | count + 1, next => do
    dup next
    match ← m.pop.attempt with
    | .error e => pure (.error e)
    | .ok v =>
      match ← readArguments m count (next + 1) with
      | .error e => pure (.error e)
      | .ok rest => pure (.ok (v :: rest))

/-- Converts the receiver, as often as it is asked for. -/
def readThis (m : Marshaller) : Crossing M δ Error HostValue := do
  (dup 0).mapError Error.ofEngineError
  m.pop

/-- How a host function ended. -/
inductive HostResult
  | returned (value : HostValue)
  | failed (failure : HostFailure)

/-- Carries out the run of a host function. -/
def carryOut (m : Marshaller) : HostRun (HostState δ) → Crossing M δ EngineError HostResult
  | .returned v host => do
    Stacked.withHost fun _ => ((), host)
    pure (.returned v)
  | .failed failure host => do
    Stacked.withHost fun _ => ((), host)
    pure (.failed failure)
  | .panicked payload host => do
    Stacked.withHost fun _ => ((), host)
    .panic payload
  | .askThis host next => do
    Stacked.withHost fun _ => ((), host)
    let this ← (readThis m).attempt
    let host ← Stacked.read fun s => s.world.host
    carryOut m (next this host)

/-- Runs a host function on the stack of its call; the result is the top slot. -/
def invoke (functions : HostFunctions δ) (bound : BoundFunction) :
    Crossing M δ EngineError Bool := do
  let m := bound.marshaller
  let count := (← depth) - 1
  match ← readArguments m count 1 with
  | .error e => throwInto .typeError e
  | .ok args =>
    let host ← Stacked.read fun s => s.world.host
    match ← carryOut m (functions bound.function args host) with
    | .returned v =>
      match ← (m.push v).attempt with
      | .ok () => pure true
      | .error e => throwInto .typeError e
    | .failed failure =>
      match failure.error? with
      | some e => throwInto (kindOf e) e
      | none =>
        pushError .error failure.text
        .fail .thrown

end ScriptHost.Crossing
