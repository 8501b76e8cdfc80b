import ScriptHost.Proofs.Engine.Protection
import ScriptHost.Proofs.Machine.Blank
import ScriptHost.Proofs.Stack.Composed
import ScriptHost.Proofs.Stack.Nesting

/-!
# The life of an engine

`Life hooks engine` says that the engine has come about by registering the hooks `hooks`, in this
order, and by any aborts on purpose, collections and protected work in between.

* `Life.sound`: the invariant of a life, and `Left.sound`, the step that protected work makes;
* `Left.dead_iff`: what protected work has to do for the engine to die, `Ruins`;
* `Left.died`: the reason, which is both reported and handed to the hook;
* `lifecycle`: **the whole of it**.
-/

namespace ScriptHost.Engine

open Stacked

variable {M : Machine} {κ ω η ε α : Type}

/-- The engines that registering `hooks` and any other requests lead to. -/
inductive Life : List η → Engine M κ η → Prop
  | new : Life [] (new M κ η)
  | registerHook {hooks : List η} {engine : Engine M κ η} (h : Life hooks engine) (hook : η) :
      Life (hooks ++ [hook]) (engine.registerHook hook)
  | fatal {hooks : List η} {engine : Engine M κ η} (h : Life hooks engine) (reason : String) :
      Life hooks (engine.fatal reason).2
  | collectGarbage {hooks : List η} {engine : Engine M κ η} (h : Life hooks engine) :
      Life hooks engine.collectGarbage
  | protect {ω ε α : Type} {hooks : List η} {engine engine' : Engine M κ η} {host host' : ω}
      {handler : Handler M κ ω} {ofEngineError : EngineError → ε} {program : Stacked M κ ω ε α}
      {result : Except ε α} (h : Life hooks engine)
      (hp : engine.protect host handler ofEngineError program = some (result, engine', host')) :
      Life hooks engine'

/-- The engine is dead, and the last one of `hooks` was fired with the reason, once and no other. -/
structure Died (hooks : List η) (engine : Engine M κ η) (reason : String) : Prop where
  dead : engine.isAlive = false
  slots : engine.slots = #[]
  fired : engine.fired = (hooks.getLast?.map (·, reason)).toList

/-- The invariant of a life: a living engine has fired nothing and holds the last hook, a dead one
has died of something. -/
structure Sound (hooks : List η) (engine : Engine M κ η) : Prop where
  alive : engine.isAlive = true → engine.fired = [] ∧ engine.hook = hooks.getLast?
  dead : engine.isAlive = false → ∃ before reason, Died before engine reason

variable {hooks : List η} {engine engine' : Engine M κ η} {host host' : ω}
  {ofEngineError : EngineError → ε} {program : Stacked M κ ω ε α} {result : Except ε α}

theorem died_abort (h : engine.fired = [] ∧ engine.hook = hooks.getLast?) (reason : String) :
    Died hooks (engine.abort reason) reason := by
  refine ⟨rfl, rfl, ?_⟩
  unfold abort
  rw [h.1, h.2]
  cases hooks.getLast? <;> rfl

theorem Died.sound {reason : String} (h : Died hooks engine reason) : Sound hooks engine :=
  ⟨fun halive => absurd (h.dead.symm.trans halive) (by simp), fun _ => ⟨hooks, reason, h⟩⟩

theorem Left.sound {outcome : Outcome M κ ω ε α}
    (h : Left engine ofEngineError outcome result engine' host')
    (hs : engine.fired = [] ∧ engine.hook = hooks.getLast?) : Sound hooks engine' := by
  cases h with
  | panicked payload w => exact (died_abort hs _).sound
  | poisonedOk a _ => exact (died_abort hs _).sound
  | poisonedError e _ => exact (died_abort hs _).sound
  | passedOk a _ => exact ⟨fun _ => hs, fun hdead => absurd hdead (by simp [isAlive])⟩
  | passedError e _ => exact ⟨fun _ => hs, fun hdead => absurd hdead (by simp [isAlive])⟩

theorem live_of_not_isAlive (h : engine.isAlive = false) : engine.live = none :=
  Option.isNone_iff_eq_none.mp (by simpa [isAlive] using h)

/-- **The invariant holds throughout a life.** -/
theorem Life.sound (h : Life hooks engine) : Sound hooks engine := by
  induction h with
  | new => exact ⟨fun _ => ⟨rfl, rfl⟩, fun hdead => absurd hdead (by simp [isAlive, Engine.new])⟩
  | registerHook _ hook ih =>
    exact ⟨fun halive => ⟨(ih.alive halive).1, by simp [Engine.registerHook]⟩, fun hdead => by
      obtain ⟨before, reason, hd⟩ := ih.dead hdead
      exact ⟨before, reason, hd.dead, hd.slots, hd.fired⟩⟩
  | @fatal hooks engine _ reason ih =>
    unfold Engine.fatal
    split
    · next halive => exact (died_abort (ih.alive halive) reason).sound
    · exact ih
  | collectGarbage _ ih => exact ih
  | @protect _ _ _ hooks engine _ _ _ _ _ _ _ _ hp ih =>
    cases hlive : engine.live with
    | none =>
      rw [protect_dead hlive] at hp
      obtain ⟨-, rfl, -⟩ : _ ∧ _ ∧ _ := by simpa using hp
      exact ih
    | some live => exact (left_of_protect hlive hp).sound (ih.alive (by simp [isAlive, hlive]))

/-! ## Protected work that ends the engine -/

/-- The program leaves its stack poisoned, or it panics, or a host function called under it leaves
its own stack poisoned, fails for good or panics. -/
def Ruins (body : κ → Stacked M κ ω EngineError Bool) (depth : Nat) (program : Stacked M κ ω ε α)
    (start : Session M κ ω) : Prop :=
  (∃ reason, program.poisonAfter (nestedHandler body depth) start = some reason) ∨
    (∃ payload w, program (nestedHandler body depth) start = .panicked payload w) ∨
    ∃ depth' c payload, Under body depth program start depth' c ∧
      c.Breaks body (nestedHandler body depth') payload

/-- The reason for which the program ends the engine: that of its panic if it panics, else the first
one for which its stack was poisoned. -/
inductive EndsFor (handler : Handler M κ ω) (program : Stacked M κ ω ε α) (start : Session M κ ω) :
    String → Prop
  | panic {payload : Payload} {w : World M κ ω} (h : program handler start = .panicked payload w) :
      EndsFor handler program start payload.reason
  | poison {reason : String} (h : program.poisonAfter handler start = some reason)
      (hfirst : Records handler program start reason) : EndsFor handler program start reason

variable {body : κ → Stacked M κ ω EngineError Bool} {depth : Nat} {live : M.State × Array κ}

theorem Left.dead_iff (h : Left engine ofEngineError
      (program (nestedHandler body depth) (engine.entry live host)) result engine' host') :
    engine'.isAlive = false ↔ Ruins body depth program (engine.entry live host) := by
  generalize ho : program (nestedHandler body depth) (engine.entry live host) = outcome at h
  have hpanicked : ∀ {depth' c payload},
      Under body depth program (engine.entry live host) depth' c →
      c.Breaks body (nestedHandler body depth') payload → ∃ w, outcome = .panicked payload w := by
    intro depth' c payload hu hb
    obtain ⟨w, hw⟩ := hu.panicked hb
    exact ⟨w, ho.symm.trans hw⟩
  cases h with
  | panicked payload w => exact ⟨fun _ => .inr (.inl ⟨payload, w, ho⟩), fun _ => rfl⟩
  | @poisonedOk s reason a hs =>
    exact ⟨fun _ => .inl ⟨reason, by simp [poisonAfter, ho, hs]⟩, fun _ => rfl⟩
  | @poisonedError s reason e hs =>
    exact ⟨fun _ => .inl ⟨reason, by simp [poisonAfter, ho, hs]⟩, fun _ => rfl⟩
  | passedOk a hs =>
    refine ⟨fun hdead => absurd hdead (by simp [isAlive]), fun hruins => ?_⟩
    rcases hruins with ⟨reason, hr⟩ | ⟨payload, w, hp⟩ | ⟨_, _, _, hu, hb⟩
    · simp [poisonAfter, ho, hs] at hr
    · simp [ho] at hp
    · simpa using hpanicked hu hb
  | passedError e hs =>
    refine ⟨fun hdead => absurd hdead (by simp [isAlive]), fun hruins => ?_⟩
    rcases hruins with ⟨reason, hr⟩ | ⟨payload, w, hp⟩ | ⟨_, _, _, hu, hb⟩
    · simp [poisonAfter, ho, hs] at hr
    · simp [ho] at hp
    · simpa using hpanicked hu hb

theorem Ruins.ends {start : Session M κ ω} (h : Ruins body depth program start) :
    program (nestedHandler body depth) start ≠ .exhausted := by
  intro hrun
  rcases h with ⟨reason, hr⟩ | ⟨payload, w, hp⟩ | ⟨_, _, _, hu, hb⟩
  · simp [poisonAfter, hrun] at hr
  · cases hrun.symm.trans hp
  · obtain ⟨w, hw⟩ := hu.panicked hb
    cases hrun.symm.trans hw

/-- **The reason reported is the one that the hook is called with.** -/
theorem Left.died {handler : Handler M κ ω} (hprogram : Composed program)
    (h : Left engine ofEngineError (program handler (engine.entry live host)) result engine' host')
    (hs : engine.fired = [] ∧ engine.hook = hooks.getLast?) (hdead : engine'.isAlive = false) :
    ∃ reason, EndsFor handler program (engine.entry live host) reason ∧
      result = .error (ofEngineError (.fatal reason)) ∧ Died hooks engine' reason := by
  generalize ho : program handler (engine.entry live host) = outcome at h
  cases h with
  | panicked payload w => exact ⟨payload.reason, .panic ho, rfl, died_abort hs _⟩
  | @poisonedOk s reason a hp =>
    have hr : program.poisonAfter handler (engine.entry live host) = some reason := by
      simp [poisonAfter, ho, hp]
    exact ⟨reason, .poison hr (hprogram.records rfl hr), rfl, died_abort hs _⟩
  | @poisonedError s reason e hp =>
    have hr : program.poisonAfter handler (engine.entry live host) = some reason := by
      simp [poisonAfter, ho, hp]
    exact ⟨reason, .poison hr (hprogram.records rfl hr), rfl, died_abort hs _⟩
  | passedOk a _ => exact absurd hdead (by simp [isAlive])
  | passedError e _ => exact absurd hdead (by simp [isAlive])

theorem Left.broken (h : Left engine ofEngineError
      (program (nestedHandler body depth) (engine.entry live host)) result engine' host')
    {depth' : Nat} {c : NativeCall M κ ω} {payload : Payload}
    (hu : Under body depth program (engine.entry live host) depth' c)
    (hb : c.Breaks body (nestedHandler body depth') payload) :
    result = .error (ofEngineError (.fatal payload.reason)) := by
  obtain ⟨w, hw⟩ := hu.panicked hb
  rw [hw] at h
  cases h
  rfl

theorem Left.passes {handler : Handler M κ ω}
    (h : Left engine ofEngineError (program handler (engine.entry live host)) result engine' host')
    {e : ε} {s : Session M κ ω} (he : program handler (engine.entry live host) = .error e s)
    (hs : s.poison = none) : result = .error e ∧ engine'.isAlive = true := by
  rw [he] at h
  cases h with
  | poisonedError _ hp => simp [hs] at hp
  | passedError _ _ => exact ⟨rfl, rfl⟩

/-- **The life of an engine.** At most one hook is ever called.  Work under protection ends a living
engine exactly if it ruins it; a bare error is passed on.  The call that ends the engine reports the
reason with which the last hook was called.  There is always an answer unless the run of the program
comes to no end, so there is one where the engine is ruined.  A dead engine runs nothing and calls
no hook. -/
theorem lifecycle (h : Life hooks engine) :
    engine.fired.length ≤ 1 ∧
    (engine.isAlive = true →
      engine.fired = [] ∧
      (∀ reason, (engine.fatal reason).1 = .fatal reason ∧
        Died hooks (engine.fatal reason).2 reason) ∧
      (∀ {ω ε α : Type} {body : κ → Stacked M κ ω EngineError Bool} {depth : Nat}
        {program : Stacked M κ ω ε α} {ofEngineError : EngineError → ε} {live : M.State × Array κ}
        {host host' : ω} {result : Except ε α} {engine' : Engine M κ η},
        Composed program → engine.live = some live →
        engine.protect host (nestedHandler body depth) ofEngineError program =
          some (result, engine', host') →
        (engine'.isAlive = false ↔ Ruins body depth program (engine.entry live host)) ∧
        (∀ e s, program (nestedHandler body depth) (engine.entry live host) = .error e s →
          s.poison = none → result = .error e ∧ engine'.isAlive = true) ∧
        (engine'.isAlive = false →
          ∃ reason, EndsFor (nestedHandler body depth) program (engine.entry live host) reason ∧
            result = .error (ofEngineError (.fatal reason)) ∧ Died hooks engine' reason) ∧
        (∀ depth' c payload, Under body depth program (engine.entry live host) depth' c →
          c.Breaks body (nestedHandler body depth') payload →
          result = .error (ofEngineError (.fatal payload.reason))) ∧
        (engine'.isAlive = true → engine'.fired = [] ∧ engine'.hook = hooks.getLast?)) ∧
      ∀ {ω ε α : Type} {body : κ → Stacked M κ ω EngineError Bool} {depth : Nat}
        {program : Stacked M κ ω ε α} (ofEngineError : EngineError → ε) {live : M.State × Array κ}
        (host : ω), Composed program → engine.live = some live →
        (engine.protect host (nestedHandler body depth) ofEngineError program = none ↔
          program (nestedHandler body depth) (engine.entry live host) = .exhausted) ∧
        (Ruins body depth program (engine.entry live host) → ∃ reason engine' host',
          engine.protect host (nestedHandler body depth) ofEngineError program =
            some (.error (ofEngineError (.fatal reason)), engine', host') ∧
          EndsFor (nestedHandler body depth) program (engine.entry live host) reason ∧
          Died hooks engine' reason)) ∧
    (engine.isAlive = false →
      (∀ reason, engine.fatal reason = (.fatal deadReason, engine)) ∧
      (∀ hook, (engine.registerHook hook).fired = engine.fired) ∧
      ∀ {ω ε α : Type} (handler : Handler M κ ω) (ofEngineError : EngineError → ε)
        (program : Stacked M κ ω ε α) (host : ω),
        engine.protect host handler ofEngineError program =
          some (.error (ofEngineError (.fatal deadReason)), engine, host)) := by
  refine ⟨?_, fun halive => ?_, fun hdead => ?_⟩
  · cases halive : engine.isAlive with
    | true => simp [(h.sound.alive halive).1]
    | false =>
      obtain ⟨before, reason, hd⟩ := h.sound.dead halive
      rw [hd.fired]
      cases before.getLast? <;> simp
  · have hs := h.sound.alive halive
    refine ⟨hs.1, fun reason => ?_, fun hprogram hlive hp => ?_, ?_⟩
    · unfold Engine.fatal
      rw [if_pos halive]
      exact ⟨rfl, died_abort hs reason⟩
    · have hl := left_of_protect hlive hp
      exact ⟨hl.dead_iff, fun _ _ he hs => hl.passes he hs, hl.died hprogram hs,
        fun _ _ _ hu hb => hl.broken hu hb, (hl.sound hs).alive⟩
    · intro _ _ _ body depth program ofEngineError live host hprogram hlive
      have hnone :
          engine.protect host (nestedHandler body depth) ofEngineError program = none ↔ _ :=
        protect_eq_none_iff hlive
      refine ⟨hnone, fun hruins => ?_⟩
      obtain ⟨⟨result, engine', host'⟩, hp⟩ :=
        Option.ne_none_iff_exists'.mp (mt hnone.mp hruins.ends)
      have hl := left_of_protect hlive hp
      obtain ⟨reason, hends, rfl, hdied⟩ := hl.died hprogram hs (hl.dead_iff.mpr hruins)
      exact ⟨reason, engine', host', hp, hends, hdied⟩
  · refine ⟨fun reason => ?_, fun hook => rfl, fun handler ofEngineError program host => ?_⟩
    · unfold Engine.fatal
      rw [if_neg (by simp [hdead])]
    · exact protect_dead (live_of_not_isAlive hdead)

/-! A host function that breaks, called by script on an engine with two hooks. -/

/-- Script calls a host function that poisons its own stack, with the reason that it is given. -/
def callBreaking (reason : String) : Stacked Machine.blank String Unit EngineError Unit := do
  Stack.pushNative "f" reason
  Stack.pushUndefined
  Stack.callMethod 0

theorem composed_callBreaking (reason : String) : Composed (callBreaking reason) :=
  .bind (.primitive (.pushNative _ _)) fun _ =>
    .bind (.primitive .pushUndefined) fun _ => .primitive (.callMethod 0)

/-- The call that script makes in it. -/
def breakingCall (reason : String) : NativeCall Machine.blank String Unit :=
  ⟨reason, .undefined, [],
    ⟨([⟨.plain, none⟩, ⟨.function, some ⟨0⟩⟩] : List Machine.BlankObject), #[reason], ()⟩⟩

theorem under_callBreaking (reason : String) :
    Under (fun reason => Stack.poison reason) 1 (callBreaking reason)
      ⟨⟨Machine.blank.fresh, #[], ()⟩, #[], none⟩ 0 (breakingCall reason) := by
  have hcall : (Machine.callBlank 1 .undefined []
      ([⟨.plain, none⟩, ⟨.function, some ⟨0⟩⟩] : List Machine.BlankObject)).Calls
        (nestedHandler (M := Machine.blank) (fun reason => Stack.poison reason) 1)
        ⟨([⟨.plain, none⟩, ⟨.function, some ⟨0⟩⟩] : List Machine.BlankObject), #[reason], ()⟩
        (breakingCall reason) := ⟨_, .here rfl⟩
  refine .direct (.second rfl (.second rfl ?_))
  unfold Stack.callMethod
  refine .second rfl ?_
  dsimp only
  refine .second rfl (.second rfl (.second rfl (.second rfl (.second rfl ?_))))
  exact .first (.first (.act hcall))

/-- Of two hooks the later one is called, with the reason of the call that broke. -/
theorem lifecycle_callBreaking :
    let engine :=
      ((Engine.new Machine.blank String String).registerHook "first").registerHook "last"
    ∃ engine', engine.protect () (nestedHandler (fun reason => Stack.poison reason) 1) id
        (callBreaking "broken") = some (.error (.fatal "broken"), engine', ()) ∧
      Died ["first", "last"] engine' "broken" := by
  intro engine
  have hlife : Life ["first", "last"] engine := (Life.new.registerHook "first").registerHook "last"
  have hprotect : engine.protect () (nestedHandler (fun reason => Stack.poison reason) 1) id
      (callBreaking "broken") = some (.error (.fatal "broken"), engine.abort "broken", ()) := rfl
  have h := ((lifecycle hlife).2.1 rfl).2.2.1 (composed_callBreaking "broken") rfl hprotect
  have hbreaks : (breakingCall "broken").Breaks (fun reason => Stack.poison reason)
      (nestedHandler (fun reason => Stack.poison reason) 0) (.abort "broken") :=
    .poisonedFailure rfl rfl
  have hdead := h.1.mpr (.inr (.inr ⟨0, _, _, under_callBreaking "broken", hbreaks⟩))
  obtain ⟨reason, -, hresult, hdied⟩ := h.2.2.1 hdead
  obtain rfl : "broken" = reason := by simpa using hresult
  exact ⟨_, hprotect, hdied⟩

end ScriptHost.Engine
