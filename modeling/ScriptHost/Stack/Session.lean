import ScriptHost.Machine.Basic
import ScriptHost.Error

/-!
# Sessions on the value stack

Host code works on a machine through a stack of script values.  A `Session` is the stack together
with the world behind it, and `Stacked` the programs that work on one: they end normally, or with an
error, or they panic, which abandons the stack.

A script may call host functions in the middle of a machine operation.  `Handler` answers such a
call; `Act.drive` carries out a run with its calls answered, threading the world through.

* `Stacked.run`, `Stacked.attempt`, `Stacked.mapError`;
* `Stacked.act`: a machine operation as a program, its failure still unsorted.
-/

namespace ScriptHost

/-- What a panic carries. -/
inductive Payload
  /-- The reason of a fatal abort. -/
  | abort (reason : String)
  | text (message : String)
  | other
  deriving DecidableEq, Repr

/-- The reason that is reported for a panic. -/
def Payload.reason : Payload → String
  | abort reason => reason
  | text message => s!"panic inside engine: {message}"
  | other => "panic inside engine"

/-- All that host functions and the script share: the machine's state, the table of the functions
`κ` that it was given, and the host's own state `ω`. -/
structure World (M : Machine) (κ ω : Type) where
  machine : M.State
  natives : Array κ
  host : ω

/-- How a call from script into the host ends. -/
inductive NativeResult (M : Machine) (κ ω : Type)
  /-- It returned (`ok`) or threw (`error`) a value. -/
  | ended (result : Except ScriptValue ScriptValue) (world : World M κ ω)
  | panicked (payload : Payload) (world : World M κ ω)
  | exhausted

/-- Answers a call of a host function with its receiver and arguments. -/
abbrev Handler (M : Machine) (κ ω : Type) :=
  κ → ScriptValue → List ScriptValue → World M κ ω → NativeResult M κ ω

/-- How a run ends once its calls have been answered. -/
inductive Driven (M : Machine) (κ ω α : Type)
  | ended (result : Except Failure α) (world : World M κ ω)
  | panicked (payload : Payload) (world : World M κ ω)
  | exhausted

/-- Carries out a run, its calls answered by `handler`.  A function missing from the table returns
the missing value. -/
def Act.drive {M : Machine} {κ ω α : Type} (handler : Handler M κ ω) :
    Act M.State α → World M κ ω → Driven M κ ω α
  | .done s result, w => .ended result { w with machine := s }
  | .crash message, w => .panicked (.text message) w
  | .exhausted, _ => .exhausted
  | .native s function this args next, w =>
    match w.natives[function.index]? with
    | none => (next s (.ok .undefined)).drive handler w
    | some body =>
      match handler body this args { w with machine := s } with
      | .ended reply w' => (next w'.machine reply).drive handler w'
      | .panicked payload w' => .panicked payload w'
      | .exhausted => .exhausted

/-- The value stack bound to a world.  A poisoned stack holds the first reason given. -/
structure Session (M : Machine) (κ ω : Type) where
  world : World M κ ω
  slots : Array ScriptValue
  poison : Option String

/-- How a program on the value stack ends. -/
inductive Outcome (M : Machine) (κ ω ε α : Type)
  | ok (value : α) (session : Session M κ ω)
  | error (e : ε) (session : Session M κ ω)
  /-- The stack is abandoned; the world is what the panic left. -/
  | panicked (payload : Payload) (world : World M κ ω)
  | exhausted

/-- A program on the value stack. -/
def Stacked (M : Machine) (κ ω ε α : Type) :=
  Handler M κ ω → Session M κ ω → Outcome M κ ω ε α

namespace Stacked

variable {M : Machine} {κ ω ε ε' α β : Type}

protected def pure (a : α) : Stacked M κ ω ε α := fun _ s => .ok a s

protected def bind (x : Stacked M κ ω ε α) (f : α → Stacked M κ ω ε β) : Stacked M κ ω ε β :=
  fun handler s =>
    match x handler s with
    | .ok a s' => f a handler s'
    | .error e s' => .error e s'
    | .panicked payload w => .panicked payload w
    | .exhausted => .exhausted

instance : Monad (Stacked M κ ω ε) where
  pure := Stacked.pure
  bind := Stacked.bind

/-- Ends with an error. -/
def fail (e : ε) : Stacked M κ ω ε α := fun _ s => .error e s

/-- Panics. -/
def panic (payload : Payload) : Stacked M κ ω ε α := fun _ s => .panicked payload s.world

/-- The error as a value, whatever the session is by then. -/
def attempt (x : Stacked M κ ω ε α) : Stacked M κ ω ε' (Except ε α) := fun handler s =>
  match x handler s with
  | .ok a s' => .ok (.ok a) s'
  | .error e s' => .ok (.error e) s'
  | .panicked payload w => .panicked payload w
  | .exhausted => .exhausted

/-- The program with its errors renamed. -/
def mapError (f : ε → ε') (x : Stacked M κ ω ε α) : Stacked M κ ω ε' α := fun handler s =>
  match x handler s with
  | .ok a s' => .ok a s'
  | .error e s' => .error (f e) s'
  | .panicked payload w => .panicked payload w
  | .exhausted => .exhausted

/-- Reads the session. -/
def read (f : Session M κ ω → α) : Stacked M κ ω ε α := fun _ s => .ok (f s) s

/-- Replaces the session. -/
def update (f : Session M κ ω → Session M κ ω) : Stacked M κ ω ε Unit := fun _ s => .ok () (f s)

/-- Changes the host's own state and answers with something. -/
def withHost (f : ω → α × ω) : Stacked M κ ω ε α := fun _ s =>
  let (a, host) := f s.world.host
  .ok a { s with world := { s.world with host := host } }

/-- Makes an object, or anything else for which the machine runs no script. -/
def make (f : M.State → α × M.State) : Stacked M κ ω ε α := fun _ s =>
  let (a, machine) := f s.world.machine
  .ok a { s with world := { s.world with machine := machine } }

/-- A machine operation as a program, its failure as a value. -/
def act (f : M.State → Act M.State α) : Stacked M κ ω ε (Except Failure α) := fun handler s =>
  match (f s.world.machine).drive handler s.world with
  | .ended result w => .ok result { s with world := w }
  | .panicked payload w => .panicked payload w
  | .exhausted => .exhausted

end Stacked

end ScriptHost
