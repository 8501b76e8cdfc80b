import ScriptHost.Stack.Primitive

/-!
# Programs of primitives

A `Step` names one primitive with its operands, and a program is a list of steps with an `Ending`.
A host function made from such a program can be handed to the script, so programs nest.  Every step
that was carried out leaves a `Record` of what it answered and of the stack after it.
-/

namespace ScriptHost

/-- How a program ends. -/
inductive Ending
  /-- It succeeds; of a host function, its top slot is the result. -/
  | success
  /-- It succeeds; of a host function, the missing value is the result. -/
  | nothing
  /-- It fails with the top slot thrown. -/
  | thrown
  /-- It fails for good, without poisoning the stack. -/
  | fatal (reason : String)
  /-- The first step that fails ends it with that failure; it succeeds if none does. -/
  | propagate
  | panic (payload : Payload)
  deriving DecidableEq, Repr

/-- One primitive with its operands. -/
inductive Step
  | pushUndefined
  | pushNull
  | pushGlobal
  | pushBoolean (b : Bool)
  | pushNumber (x : Float)
  | pushString (text : List UInt8)
  | pushArray
  | pushObject
  | pushError (kind : ErrorKind) (message : String)
  /-- Pushes a host function that carries out a program; its records bear the label. -/
  | pushNative (name : String) (label : Option String) (steps : List Step) (ending : Ending)
  | append (index : Nat)
  | putProp (index : Nat) (key : List UInt8)
  | getProp (index : Nat) (key : List UInt8)
  | putGlobal (name : List UInt8)
  | getIndex (index element : Nat)
  | ownKeys (index : Nat)
  | arrayLength (index : Nat)
  | slotType (index : Nat)
  | getBoolean (index : Nat)
  | getNumber (index : Nat)
  | getString (index : Nat)
  | display (index : Nat)
  | runSource (source : List UInt8) (filename : String)
  | callMethod (count : Nat)
  | pop
  | dup (index : Nat)
  | setDepth (depth : Nat)
  | depth
  | fatal (reason : String)

/-- What a step answers. -/
inductive Answer
  | nothing
  | boolean (b : Bool)
  | number (x : Float)
  | count (n : Nat)
  | text (bytes : Option (List UInt8))
  | keys (keys : List (List UInt8))
  | slot (kind : SlotType)

/-- A step that was carried out: where, its answer, and the stack after it. -/
structure Record where
  label : Option String
  answer : Except EngineError Answer
  depth : Nat
  top : SlotType
  poisoned : Bool

/-- A program that can be called from script. -/
structure StepProgram where
  label : Option String
  steps : List Step
  ending : Ending

namespace Step

variable {M : Machine}

/-- Programs of steps; the host's state is the records so far, the last one first. -/
abbrev Running (M : Machine) (α : Type) := Stacked M StepProgram (List Record) EngineError α

/-- Carries out one step. -/
def carryOut : Step → Running M Answer
  | pushUndefined => do Stack.pushUndefined; pure .nothing
  | pushNull => do Stack.pushNull; pure .nothing
  | pushGlobal => do Stack.pushGlobal; pure .nothing
  | pushBoolean b => do Stack.pushBoolean b; pure .nothing
  | pushNumber x => do Stack.pushNumber x; pure .nothing
  | pushString text => do Stack.pushString text; pure .nothing
  | pushArray => do pure (.count (← Stack.pushArray))
  | pushObject => do pure (.count (← Stack.pushObject))
  | pushError kind message => do Stack.pushError kind message; pure .nothing
  | pushNative name label steps ending => do
    Stack.pushNative name ⟨label, steps, ending⟩
    pure .nothing
  | append index => do Stack.append index; pure .nothing
  | putProp index key => do Stack.putProp index key; pure .nothing
  | getProp index key => do pure (.boolean (← Stack.getProp index key))
  | putGlobal name => do Stack.putGlobal name; pure .nothing
  | getIndex index element => do Stack.getIndex index element; pure .nothing
  | ownKeys index => do pure (.keys (← Stack.ownKeys index))
  | arrayLength index => do pure (.count (← Stack.arrayLength index))
  | slotType index => do pure (.slot (← Stack.slotType index))
  | getBoolean index => do pure (.boolean (← Stack.getBoolean index))
  | getNumber index => do pure (.number (← Stack.getNumber index))
  | getString index => do pure (.text (← Stack.getString index))
  | display index => do pure (.text (← Stack.displayText index))
  | runSource source filename => do Stack.runSource source filename; pure .nothing
  | callMethod count => do Stack.callMethod count; pure .nothing
  | pop => do Stack.pop; pure .nothing
  | dup index => do Stack.dup index; pure .nothing
  | setDepth n => do Stack.setDepth n; pure .nothing
  | depth => do pure (.count (← Stack.depth))
  | fatal reason => Stack.poison reason

/-- Writes down what a step answered. -/
def record (label : Option String) (answer : Except EngineError Answer) : Running M Unit := do
  let depth ← Stack.depth
  let top ← if depth = 0 then pure .none else Stack.slotType (depth - 1)
  let poisoned ← Stack.isPoisoned
  Stacked.withHost fun records => ((), ⟨label, answer, depth, top, poisoned⟩ :: records)

/-- Carries out the steps in order.  A failure ends them only if it is to be propagated. -/
def runAll (label : Option String) (propagate : Bool) : List Step → Running M Unit
  | [] => pure ()
  | step :: rest => do
    let answer ← (carryOut step).attempt
    record label answer
    match answer with
    | .error e => if propagate then .fail e else runAll label propagate rest
    | .ok _ => runAll label propagate rest

/-- Carries out a program.  The answer is whether the top slot is the result. -/
def runProgram (program : StepProgram) : Running M Bool := do
  runAll program.label (program.ending = .propagate) program.steps
  match program.ending with
  | .success | .propagate => pure true
  | .nothing => pure false
  | .thrown => .fail .thrown
  | .fatal reason => .fail (.fatal reason)
  | .panic payload => .panic payload

end Step

end ScriptHost
