import ScriptHost.Stack.Native

/-!
# Engines

An engine owns one machine and the value stack on it.  All work is done under `Engine.protect`: a
panic that escapes the work, or a stack that it leaves poisoned, aborts the engine.  An abort drops
the machine and the slots for good and fires the hook, which is the only thing that ever does.
-/

namespace ScriptHost

/-- An engine whose hooks carry labels `η`. -/
structure Engine (M : Machine) (κ η : Type) where
  /-- The machine's state and the host functions it was given; nothing once the engine is dead. -/
  live : Option (M.State × Array κ)
  slots : Array ScriptValue
  /-- The hook to be fired by an abort. -/
  hook : Option η
  /-- The hooks fired so far, with the reasons. -/
  fired : List (η × String)

namespace Engine

variable {M : Machine} {κ ω η ε α : Type}

/-- An engine on a fresh machine. -/
def new (M : Machine) (κ η : Type) : Engine M κ η := ⟨some (M.fresh, #[]), #[], none, []⟩

/-- Installs a hook in place of the one before. -/
def registerHook (engine : Engine M κ η) (hook : η) : Engine M κ η :=
  { engine with hook := some hook }

def isAlive (engine : Engine M κ η) : Bool := engine.live.isSome

def stackDepth (engine : Engine M κ η) : Nat := engine.slots.size

/-- The reason that a dead engine gives. -/
def deadReason : String := "engine was aborted by an earlier fatal error"

/-- Drops the machine and the slots and fires the hook. -/
def abort (engine : Engine M κ η) (reason : String) : Engine M κ η :=
  { live := none
    slots := #[]
    hook := none
    fired := match engine.hook with
      | some hook => engine.fired ++ [(hook, reason)]
      | none => engine.fired }

/-- Aborts the engine on purpose. -/
def fatal (engine : Engine M κ η) (reason : String) : EngineError × Engine M κ η :=
  if engine.isAlive then (.fatal reason, engine.abort reason) else (.fatal deadReason, engine)

/-- Forces a collection of garbage, which changes nothing that can be seen. -/
def collectGarbage (engine : Engine M κ η) : Engine M κ η := engine

/-- Runs a program on the value stack.  The answer is `none` only if a run was longer than is
allowed. -/
def protect (engine : Engine M κ η) (host : ω) (handler : Handler M κ ω)
    (ofEngineError : EngineError → ε) (program : Stacked M κ ω ε α) :
    Option (Except ε α × Engine M κ η × ω) :=
  match engine.live with
  | none => some (.error (ofEngineError (.fatal deadReason)), engine, host)
  | some (machine, natives) =>
    let leave (result : Except ε α) (s : Session M κ ω) :=
      match s.poison with
      | some reason =>
        some (.error (ofEngineError (.fatal reason)), engine.abort reason, s.world.host)
      | none =>
        some (result, { engine with
          live := some (s.world.machine, s.world.natives), slots := s.slots }, s.world.host)
    match program handler ⟨⟨machine, natives, host⟩, engine.slots, none⟩ with
    | .ok a s => leave (.ok a) s
    | .error e s => leave (.error e) s
    | .panicked payload w =>
      some (.error (ofEngineError (.fatal payload.reason)), engine.abort payload.reason, w.host)
    | .exhausted => none

end Engine

end ScriptHost
