import ScriptHost.Proofs.Stack.Assembled
import ScriptHost.Proofs.Stack.Composed

/-!
# The tower of live stacks

While script calls host functions that run script again, many value stacks are alive: the one worked
on, and below it those of the callers, which wait.  `Tower` holds them all, and the relations here
say how programs and runs play on a tower.  A call puts a new stack on the tower, and its end takes
the stack off again and goes on with whatever stack lies there, so a function that had reached down
would be noticed by its caller.

* one call: `Tower.enter`, the new stack; `Leaves` and `Unwinds`, what becomes of its end;
* runs of the machine and programs: `Drives` and `Plays`, with the calls played by `plays`;
* `nestedPlays`: calls nested to a given depth;
* `Outcome.over`: an outcome on top of stacks that stay as they are.
-/

namespace ScriptHost

variable {M : Machine} {κ ω ε ε' α β : Type}

/-- A value stack that waits for a call to end. -/
structure Frame where
  slots : Array ScriptValue
  poison : Option String

/-- All value stacks that are alive: the one worked on, with the world, and those below it, the
innermost first. -/
structure Tower (M : Machine) (κ ω : Type) where
  top : Session M κ ω
  below : List Frame

namespace Tower

/-- The tower with another world. -/
def withWorld (t : Tower M κ ω) (w : World M κ ω) : Tower M κ ω :=
  ⟨{ t.top with world := w }, t.below⟩

/-- A call from script, with the machine in the state `s`: the receiver and the arguments are on a
new stack, and the one worked on so far waits below it. -/
def enter (t : Tower M κ ω) (s : M.State) (this : ScriptValue)
    (args : List ScriptValue) : Tower M κ ω :=
  ⟨⟨{ t.top.world with machine := s }, (this :: args).toArray, none⟩,
    ⟨t.top.slots, t.top.poison⟩ :: t.below⟩

/-- How work on a tower ends. -/
inductive End (M : Machine) (κ ω ε α : Type)
  | ok (a : α) (t : Tower M κ ω)
  | error (e : ε) (t : Tower M κ ω)
  /-- The stack worked on is given up; the others are left. -/
  | panicked (payload : Payload) (w : World M κ ω) (below : List Frame)

namespace End

/-- The stacks below the one that was worked on. -/
def below : End M κ ω ε α → List Frame
  | ok _ t | error _ t => t.below
  | panicked _ _ below => below

/-- The error as a value. -/
def attempt : End M κ ω ε α → End M κ ω ε' (Except ε α)
  | ok a t => ok (.ok a) t
  | error e t => ok (.error e) t
  | panicked payload w below => panicked payload w below

/-- The error renamed. -/
def mapError (f : ε → ε') : End M κ ω ε α → End M κ ω ε' α
  | ok a t => ok a t
  | error e t => error (f e) t
  | panicked payload w below => panicked payload w below

end End

end Tower

open Tower (End)

/-! ## The end of a call -/

/-- A host function ends so that its caller goes on: its stack is taken off, with all that is on it
except the reply, and the caller finds its own below. -/
inductive Leaves : End M κ ω EngineError Bool → Except ScriptValue ScriptValue → Tower M κ ω → Prop
  /-- The top slot is returned, the missing value if there is none. -/
  | top (w : World M κ ω) (slots : Array ScriptValue) (frame : Frame) (below : List Frame) :
    Leaves (.ok true ⟨⟨w, slots, none⟩, frame :: below⟩) (.ok (slots.back?.getD .undefined))
      ⟨⟨w, frame.slots, frame.poison⟩, below⟩
  | nothing (w : World M κ ω) (slots : Array ScriptValue) (frame : Frame) (below : List Frame) :
    Leaves (.ok false ⟨⟨w, slots, none⟩, frame :: below⟩) (.ok .undefined)
      ⟨⟨w, frame.slots, frame.poison⟩, below⟩
  /-- The top slot is thrown, the missing value if there is none. -/
  | thrown (w : World M κ ω) (slots : Array ScriptValue) (frame : Frame) (below : List Frame) :
    Leaves (.error .thrown ⟨⟨w, slots, none⟩, frame :: below⟩)
      (.error (slots.back?.getD .undefined)) ⟨⟨w, frame.slots, frame.poison⟩, below⟩

/-- A host function ends so that its caller is given up with it: it leaves its stack poisoned, fails
for good, or panics. -/
inductive Unwinds : End M κ ω EngineError Bool → Payload → World M κ ω → List Frame → Prop
  | poisoned (b : Bool) (w : World M κ ω) (slots : Array ScriptValue) (reason : String)
      (frame : Frame) (below : List Frame) :
    Unwinds (.ok b ⟨⟨w, slots, some reason⟩, frame :: below⟩) (.abort reason) w below
  | poisonedFailure (e : EngineError) (w : World M κ ω) (slots : Array ScriptValue)
      (reason : String) (frame : Frame) (below : List Frame) :
    Unwinds (.error e ⟨⟨w, slots, some reason⟩, frame :: below⟩) (.abort reason) w below
  | fatal (w : World M κ ω) (slots : Array ScriptValue) (reason : String) (frame : Frame)
    (below : List Frame) :
    Unwinds (.error (.fatal reason) ⟨⟨w, slots, none⟩, frame :: below⟩) (.abort reason) w below
  | panicked (payload : Payload) (w : World M κ ω) (frame : Frame) (below : List Frame) :
    Unwinds (.panicked payload w (frame :: below)) payload w below

/-! ## Runs and programs on a tower -/

/-- How the functions of the table play on a tower. -/
abbrev Playing (M : Machine) (κ ω : Type) := κ → Tower M κ ω → End M κ ω EngineError Bool → Prop

/-- A run of the machine on a tower.  It works on no stack itself;
the functions that it calls do. -/
inductive Drives (plays : Playing M κ ω) :
    {α : Type} → Act M.State α → Tower M κ ω → End M κ ω Failure α → Prop
  | done {α : Type} (s : M.State) (a : α) (t : Tower M κ ω) :
    Drives plays (.done s (.ok a)) t (.ok a (t.withWorld { t.top.world with machine := s }))
  | failed {α : Type} (s : M.State) (failure : Failure) (t : Tower M κ ω) :
    Drives plays (.done s (.error failure) : Act M.State α) t
      (.error failure (t.withWorld { t.top.world with machine := s }))
  | crash {α : Type} (message : String) (t : Tower M κ ω) :
    Drives plays (.crash message : Act M.State α) t (.panicked (.text message) t.top.world t.below)
  /-- A function that is not in the table. -/
  | missing {α : Type} {s : M.State} {function : NativeId} {this : ScriptValue}
      {args : List ScriptValue}
    {next : M.State → Except ScriptValue ScriptValue → Act M.State α} {t : Tower M κ ω}
    {e : End M κ ω Failure α} (hk : t.top.world.natives[function.index]? = none)
    (hnext : Drives plays (next s (.ok .undefined)) t e) :
    Drives plays (.native s function this args next) t e
  /-- A call whose end lets the script go on. -/
  | answered {α : Type} {s : M.State} {function : NativeId} {this : ScriptValue}
      {args : List ScriptValue}
    {next : M.State → Except ScriptValue ScriptValue → Act M.State α} {t t' : Tower M κ ω} {k : κ}
    {callee : End M κ ω EngineError Bool} {reply : Except ScriptValue ScriptValue}
    {e : End M κ ω Failure α} (hk : t.top.world.natives[function.index]? = some k)
    (hplays : plays k (t.enter s this args) callee) (hleaves : Leaves callee reply t')
    (hnext : Drives plays (next t'.top.world.machine reply) t' e) :
    Drives plays (.native s function this args next) t e
  /-- A call whose end gives up the script and the stack that it ran under. -/
  | unwound {α : Type} {s : M.State} {function : NativeId} {this : ScriptValue}
      {args : List ScriptValue}
    {next : M.State → Except ScriptValue ScriptValue → Act M.State α} {t : Tower M κ ω} {k : κ}
    {callee : End M κ ω EngineError Bool} {payload : Payload} {w : World M κ ω} {below : List Frame}
    (hk : t.top.world.natives[function.index]? = some k)
    (hplays : plays k (t.enter s this args) callee) (hunwinds : Unwinds callee payload w below) :
    Drives plays (.native s function this args next) t (.panicked payload w below)

/-- A program on a tower: it works on the top stack, and runs of the machine play below it. -/
inductive Plays (plays : Playing M κ ω) :
    {ε α : Type} → Stacked M κ ω ε α → Tower M κ ω → End M κ ω ε α → Prop
  | pure {ε α : Type} (a : α) (t : Tower M κ ω) :
      Plays plays (pure a : Stacked M κ ω ε α) t (.ok a t)
  | fail {ε α : Type} (e : ε) (t : Tower M κ ω) :
    Plays plays (Stacked.fail e : Stacked M κ ω ε α) t (.error e t)
  | panic {ε α : Type} (payload : Payload) (t : Tower M κ ω) :
    Plays plays (Stacked.panic payload : Stacked M κ ω ε α) t
    (.panicked payload t.top.world t.below)
  | read {ε α : Type} (f : Session M κ ω → α) (t : Tower M κ ω) :
    Plays plays (Stacked.read f : Stacked M κ ω ε α) t (.ok (f t.top) t)
  | update {ε : Type} (f : Session M κ ω → Session M κ ω) (t : Tower M κ ω) :
    Plays plays (Stacked.update f : Stacked M κ ω ε Unit) t (.ok () ⟨f t.top, t.below⟩)
  | withHost {ε α : Type} (f : ω → α × ω) (t : Tower M κ ω) :
    Plays plays (Stacked.withHost f : Stacked M κ ω ε α) t
      (.ok (f t.top.world.host).1 (t.withWorld { t.top.world with host := (f t.top.world.host).2 }))
  | make {ε α : Type} (f : M.State → α × M.State) (t : Tower M κ ω) :
    Plays plays (Stacked.make f : Stacked M κ ω ε α) t
      (.ok (f t.top.world.machine).1
        (t.withWorld { t.top.world with machine := (f t.top.world.machine).2 }))
  | act {ε α : Type} {f : M.State → Act M.State α} {t : Tower M κ ω} {e : End M κ ω Failure α}
    (h : Drives plays (f t.top.world.machine) t e) :
    Plays plays (Stacked.act f : Stacked M κ ω ε (Except Failure α)) t e.attempt
  | attempt {ε ε' α : Type} {x : Stacked M κ ω ε α} {t : Tower M κ ω} {e : End M κ ω ε α}
    (h : Plays plays x t e) : Plays plays (x.attempt : Stacked M κ ω ε' (Except ε α)) t e.attempt
  | mapError {ε ε' α : Type} (g : ε → ε') {x : Stacked M κ ω ε α} {t : Tower M κ ω}
      {e : End M κ ω ε α} (h : Plays plays x t e) : Plays plays (x.mapError g) t (e.mapError g)
  | bind {ε α β : Type} {x : Stacked M κ ω ε α} {f : α → Stacked M κ ω ε β} {a : α}
      {t t' : Tower M κ ω}
    {e : End M κ ω ε β} (hx : Plays plays x t (.ok a t')) (hf : Plays plays (f a) t' e) :
    Plays plays (x >>= f) t e
  | bindError {ε α β : Type} {x : Stacked M κ ω ε α} {f : α → Stacked M κ ω ε β} {e : ε}
    {t t' : Tower M κ ω} (hx : Plays plays x t (.error e t')) :
      Plays plays (x >>= f) t (.error e t')
  | bindPanicked {ε α β : Type} {x : Stacked M κ ω ε α} {f : α → Stacked M κ ω ε β}
      {payload : Payload}
    {t : Tower M κ ω} {w : World M κ ω} {below : List Frame}
    (hx : Plays plays x t (.panicked payload w below)) :
    Plays plays (x >>= f) t (.panicked payload w below)

/-- How host functions play that are nested at most `depth` deep. -/
def nestedPlays (body : κ → Stacked M κ ω EngineError Bool) : (depth : Nat) → Playing M κ ω
  | 0 => fun _ _ _ => False
  | depth + 1 => fun k t e => Plays (nestedPlays body depth) (body k) t e

/-! ## Outcomes on top of a tower -/

/-- The outcome of a program on its own stack, with the stacks `below` as they were. -/
def Outcome.over (below : List Frame) : Outcome M κ ω ε α → Option (End M κ ω ε α)
  | .ok a s => some (.ok a ⟨s, below⟩)
  | .error e s => some (.error e ⟨s, below⟩)
  | .panicked payload w => some (.panicked payload w below)
  | .exhausted => none

/-- The end of a run of the machine under the tower `t`, with all its stacks as they were. -/
def Driven.over (t : Tower M κ ω) : Driven M κ ω α → Option (End M κ ω Failure α)
  | .ended (.ok a) w => some (.ok a (t.withWorld w))
  | .ended (.error failure) w => some (.error failure (t.withWorld w))
  | .panicked payload w => some (.panicked payload w t.below)
  | .exhausted => none

theorem Outcome.below_of_over {below : List Frame} {outcome : Outcome M κ ω ε α} {e : End M κ ω ε α}
    (h : outcome.over below = some e) : e.below = below := by
  cases outcome with
  | ok a s => cases h; rfl
  | error e s => cases h; rfl
  | panicked payload w => cases h; rfl
  | exhausted => cases h

end ScriptHost
