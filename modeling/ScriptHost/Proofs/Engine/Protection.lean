import ScriptHost.Engine
import ScriptHost.Proofs.Stack.Logic

/-!
# How protected work ends

On an engine that is alive, `Engine.protect` lets the program run and then does one of three things,
`Engine.Left`: it aborts the engine for a panic, or for the poison on the stack, or it passes the
program's own result on and keeps the engine.  On a dead engine it runs nothing.

* `protect_dead`, `left_of_protect`: the two cases;
* `protect_eq_none_iff`: when there is no answer;
* `Left.ended`: what is left if something is known of the program's run.
-/

namespace ScriptHost.Engine

variable {M : Machine} {κ ω η ε α : Type}

/-- The stack on which protected work starts. -/
def entry (engine : Engine M κ η) (live : M.State × Array κ) (host : ω) : Session M κ ω :=
  ⟨⟨live.1, live.2, host⟩, engine.slots, none⟩

/-- What is left of the engine once the protected work has ended, with the answer and the host's
state. -/
inductive Left (engine : Engine M κ η) (ofEngineError : EngineError → ε) :
    Outcome M κ ω ε α → Except ε α → Engine M κ η → ω → Prop
  | panicked (payload : Payload) (w : World M κ ω) :
      Left engine ofEngineError (.panicked payload w)
        (.error (ofEngineError (.fatal payload.reason))) (engine.abort payload.reason) w.host
  | poisonedOk {s : Session M κ ω} {reason : String} (a : α) (hs : s.poison = some reason) :
      Left engine ofEngineError (.ok a s) (.error (ofEngineError (.fatal reason)))
        (engine.abort reason) s.world.host
  | poisonedError {s : Session M κ ω} {reason : String} (e : ε) (hs : s.poison = some reason) :
      Left engine ofEngineError (.error e s) (.error (ofEngineError (.fatal reason)))
        (engine.abort reason) s.world.host
  | passedOk {s : Session M κ ω} (a : α) (hs : s.poison = none) :
      Left engine ofEngineError (.ok a s) (.ok a)
        { engine with live := some (s.world.machine, s.world.natives), slots := s.slots }
        s.world.host
  | passedError {s : Session M κ ω} (e : ε) (hs : s.poison = none) :
      Left engine ofEngineError (.error e s) (.error e)
        { engine with live := some (s.world.machine, s.world.natives), slots := s.slots }
        s.world.host

variable {engine engine' : Engine M κ η} {host host' : ω} {handler : Handler M κ ω}
  {ofEngineError : EngineError → ε} {program : Stacked M κ ω ε α} {result : Except ε α}

theorem protect_dead (h : engine.live = none) :
    engine.protect host handler ofEngineError program =
      some (.error (ofEngineError (.fatal deadReason)), engine, host) := by
  unfold protect
  rw [h]

/-- An engine that is alive ends in one of the ways of `Left`. -/
theorem left_of_protect {live : M.State × Array κ} (h : engine.live = some live)
    (hp : engine.protect host handler ofEngineError program = some (result, engine', host')) :
    Left engine ofEngineError (program handler (engine.entry live host)) result engine' host' := by
  have hrun : program handler ⟨⟨live.1, live.2, host⟩, engine.slots, none⟩ =
      program handler (engine.entry live host) := rfl
  unfold protect at hp
  rw [h] at hp
  dsimp only at hp
  rw [hrun] at hp
  cases ho : program handler (engine.entry live host) with
  | ok a s =>
    simp only [ho] at hp
    cases hs : s.poison with
    | none =>
      simp only [hs, Option.some.injEq, Prod.mk.injEq] at hp
      obtain ⟨rfl, rfl, rfl⟩ := hp
      exact .passedOk a hs
    | some reason =>
      simp only [hs, Option.some.injEq, Prod.mk.injEq] at hp
      obtain ⟨rfl, rfl, rfl⟩ := hp
      exact .poisonedOk a hs
  | error e s =>
    simp only [ho] at hp
    cases hs : s.poison with
    | none =>
      simp only [hs, Option.some.injEq, Prod.mk.injEq] at hp
      obtain ⟨rfl, rfl, rfl⟩ := hp
      exact .passedError e hs
    | some reason =>
      simp only [hs, Option.some.injEq, Prod.mk.injEq] at hp
      obtain ⟨rfl, rfl, rfl⟩ := hp
      exact .poisonedError e hs
  | panicked payload w =>
    simp only [ho, Option.some.injEq, Prod.mk.injEq] at hp
    obtain ⟨rfl, rfl, rfl⟩ := hp
    exact .panicked payload w
  | exhausted => simp [ho] at hp

/-- **An engine that is alive gives no answer exactly if the run of the program
comes to no end.** -/
theorem protect_eq_none_iff {live : M.State × Array κ} (h : engine.live = some live) :
    engine.protect host handler ofEngineError program = none ↔
      program handler (engine.entry live host) = .exhausted := by
  have hrun : program handler ⟨⟨live.1, live.2, host⟩, engine.slots, none⟩ =
      program handler (engine.entry live host) := rfl
  unfold protect
  rw [h]
  dsimp only
  rw [hrun]
  cases program handler (engine.entry live host) with
  | ok a s => cases hs : s.poison <;> simp [hs]
  | error e s => cases hs : s.poison <;> simp [hs]
  | panicked payload w => simp
  | exhausted => simp

/-- The end of protected work whose run ends only as `Q` allows. -/
inductive Ended (engine : Engine M κ η) (ofEngineError : EngineError → ε) (Q : Post M κ ω ε α) :
    Except ε α → Engine M κ η → Prop
  | aborted (reason : String)
      (h : (∃ payload w, Q.panicked payload w) ∨
        ∃ s : Session M κ ω, s.poison = some reason ∧ ((∃ a, Q.ok a s) ∨ ∃ e, Q.error e s)) :
      Ended engine ofEngineError Q (.error (ofEngineError (.fatal reason))) (engine.abort reason)
  | ok {a : α} {s : Session M κ ω} (h : Q.ok a s) (hs : s.poison = none) :
      Ended engine ofEngineError Q (.ok a)
        { engine with live := some (s.world.machine, s.world.natives), slots := s.slots }
  | error {e : ε} {s : Session M κ ω} (h : Q.error e s) (hs : s.poison = none) :
      Ended engine ofEngineError Q (.error e)
        { engine with live := some (s.world.machine, s.world.natives), slots := s.slots }

theorem Left.ended {s : Session M κ ω} {Q : Post M κ ω ε α} (hwp : program.wp handler Q s)
    (h : Left engine ofEngineError (program handler s) result engine' host') :
    Ended engine ofEngineError Q result engine' := by
  unfold Stacked.wp at hwp
  generalize program handler s = outcome at h hwp
  cases h with
  | panicked payload w => exact .aborted _ (.inl ⟨payload, w, hwp⟩)
  | poisonedOk a hs => exact .aborted _ (.inr ⟨_, hs, .inl ⟨a, hwp⟩⟩)
  | poisonedError e hs => exact .aborted _ (.inr ⟨_, hs, .inr ⟨e, hwp⟩⟩)
  | passedOk a hs => exact .ok hwp hs
  | passedError e hs => exact .error hwp hs

end ScriptHost.Engine
