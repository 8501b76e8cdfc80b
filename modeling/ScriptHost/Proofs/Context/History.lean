import Mathlib.Logic.Relation
import ScriptHost.Proofs.Context.Performed
import ScriptHost.Proofs.Engine.Lifecycle
import ScriptHost.Proofs.Machine.Blank
import ScriptHost.Proofs.Stack.Logic

/-!
# The history of a context

`Reached config ctx` says that the context has come from a new one with these settings by any
operations at all, with any sources, arguments and host functions, on a machine that does what it
likes.

* `Coherent`: the invariant, which ties the slots, the flag that the hook sets and the life of the
  engine together; `Coherent.performed`: what one operation preserves;
* `restoring_depth`: every way out of a program restores the depth of the stack, or poisons it;
* `between_operations`: **what holds after every operation**; `refuses_of_invalid`: how operations
  are refused once a context is not valid.
-/

namespace ScriptHost.Context

open Stack Stacked Crossing

variable {M : Machine} {δ α : Type} {ctx ctx' : Context M} {host host' : HostState δ}

/-- One operation leads from the context to `ctx'`. -/
def Step (ctx ctx' : Context M) : Prop :=
  ∃ (δ : Type) (functions : HostFunctions δ) (op : Operation) (host host' : HostState δ)
    (result : Except Error op.Value), op.perform functions ctx host = some (result, ctx', host')

/-- Any operations lead from a new context to this one. -/
def Reached (config : Config) : Context M → Prop :=
  Relation.ReflTransGen Step (Context.new M config)

/-- The depth is as it was, on every way out that does not leave the stack poisoned. -/
theorem restoring_depth (program : Crossing M δ Error α)
    (handler : Handler M BoundFunction (HostState δ)) (s : Session M BoundFunction (HostState δ)) :
    (restoring program).wp handler
      ⟨fun _ s' => s'.poison = none → s'.slots.size = s.slots.size,
        fun _ s' => s'.poison = none → s'.slots.size = s.slots.size, fun _ _ => True⟩ s := by
  -- The slots are dropped, or there are too few of them, which poisons the stack.
  have hset (n : Nat) (s₁ : Session M BoundFunction (HostState δ)) :
      (setDepth n : Crossing M δ Error Unit).wp handler
        ⟨fun _ s' => s'.poison = none → s'.slots.size = n, fun _ _ => False, fun _ _ => True⟩
        s₁ := by
    unfold setDepth
    rw [wp_update]
    by_cases hp : s₁.poison.isSome = true
    · rw [if_pos hp]
      intro hnone
      rw [hnone] at hp
      cases hp
    · rw [if_neg hp]
      by_cases hn : s₁.slots.size < n
      · rw [if_pos hn]
        rintro ⟨⟩
      · rw [if_neg hn]
        intro _
        simpa using Nat.min_eq_left (Nat.le_of_not_lt hn)
  have hend (result : Except Error α) (s₁ : Session M BoundFunction (HostState δ)) :
      (setDepth s.slots.size >>= fun _ => Crossing.ofExcept result :
        Crossing M δ Error α).wp handler
        ⟨fun _ s' => s'.poison = none → s'.slots.size = s.slots.size,
          fun _ s' => s'.poison = none → s'.slots.size = s.slots.size, fun _ _ => True⟩ s₁ := by
    refine wp_bind_of (hset _ s₁) (fun _ s₂ h₂ => ?_) (fun _ _ h => h.elim) fun _ _ h => h
    cases result with
    | ok a => exact h₂
    | error e => exact h₂
  unfold restoring depth
  rw [wp_bind, wp_read]
  dsimp only
  rw [wp_bind, wp_attempt]
  unfold wp
  cases program handler s with
  | ok a s₁ => exact hend (.ok a) s₁
  | error e s₁ => exact hend (.error e) s₁
  | panicked payload w => trivial
  | exhausted => trivial

/-- The invariant.  Between operations the stack is empty; a living engine has its hook and has not
fired it, and a dead one has fired it. -/
structure Coherent (ctx : Context M) : Prop where
  slots : ctx.engine.slots = #[]
  alive : ctx.engine.isAlive = true → ctx.engine.fired = [] ∧ ctx.engine.hook = some ()
  dead : ctx.engine.isAlive = false → ∃ reason, Engine.Died [()] ctx.engine reason

theorem coherent_new (config : Config) : Coherent (Context.new M config) :=
  ⟨rfl, fun _ => ⟨rfl, rfl⟩, fun h => absurd h
    (by simp [Context.new, Engine.new, Engine.registerHook, Engine.isAlive])⟩

theorem coherent_of_died {engine : Engine M BoundFunction Unit} {config : Config} {reason : String}
    (h : Engine.Died [()] engine reason) : Coherent ⟨engine, config⟩ :=
  ⟨h.slots, fun halive => absurd (h.dead.symm.trans halive) (by simp), fun _ => ⟨reason, h⟩⟩

theorem Coherent.isValid_eq (h : Coherent ctx) : ctx.isValid = ctx.engine.isAlive := by
  unfold isValid
  cases halive : ctx.engine.isAlive with
  | true => rw [(h.alive halive).1]; rfl
  | false => rw [Bool.and_false]

/-- **What one operation preserves.** -/
theorem Coherent.performed (h : Coherent ctx) (hv : ctx.isValid = true)
    {functions : HostFunctions δ} {op : Operation} {result : Except Error op.Value}
    (hperformed : Operation.Performed functions ctx host op result ctx' host') : Coherent ctx' := by
  have hs := h.alive (isAlive_of_isValid hv)
  cases hperformed with
  | @ran _ program live _ engine _ hr hlive hleft =>
    have hpassed (s : Session M BoundFunction (HostState δ)) (hp : s.poison = none)
        (hd : s.poison = none → s.slots.size = (ctx.engine.entry live host).slots.size) :
        Coherent (⟨{ ctx.engine with
          live := some (s.world.machine, s.world.natives), slots := s.slots }, ctx.config⟩ :
          Context M) := by
      have hsize := hd hp
      rw [Engine.entry, h.slots] at hsize
      exact ⟨Array.eq_empty_of_size_eq_zero hsize, fun _ => hs,
        fun hdead => absurd hdead (by simp [Engine.isAlive])⟩
    cases hleft.ended (restoring_depth program _ _) with
    | aborted reason _ => exact coherent_of_died (Engine.died_abort hs reason)
    | ok hd hp => exact hpassed _ hp hd
    | error hd hp => exact hpassed _ hp hd
  | getNothing path => exact h
  | callNothing path args => exact h
  | collected => exact h
  | aborted reason => exact coherent_of_died (Engine.died_abort hs reason)

theorem Coherent.step (h : Coherent ctx) (hstep : Step ctx ctx') : Coherent ctx' := by
  obtain ⟨δ, functions, op, host, host', result, hp⟩ := hstep
  cases hv : ctx.engine.isAlive with
  | true =>
    have hvalid := h.isValid_eq.trans hv
    exact h.performed hvalid (Operation.performed_of_perform hvalid hp)
  | false =>
    rw [Operation.perform_dead functions host op hv] at hp
    cases hp
    exact h

theorem Reached.coherent {config : Config} (h : Reached config ctx) : Coherent ctx := by
  induction h with
  | refl => exact coherent_new config
  | tail _ hstep ih => exact ih.step hstep

/-- **A context that is not valid refuses every operation** and is left as it is.  The refusal is
the fatal error, but for a path without keys: that is found fault with before the
context is looked at. -/
theorem refuses_of_invalid {config : Config} (h : Reached config ctx) (hv : ctx.isValid = false)
    (functions : HostFunctions δ) (host : HostState δ) (op : Operation) :
    (¬ op.LooksNowhere → ∃ reason,
      op.perform functions ctx host = some (.error (.internal reason), ctx, host)) ∧
    (op.LooksNowhere → op.perform functions ctx host = some (.error emptyPath, ctx, host)) := by
  have hdead : ctx.engine.isAlive = false := h.coherent.isValid_eq.symm.trans hv
  rw [Operation.perform_dead functions host op hdead]
  refine ⟨fun hlooks => ?_, fun hlooks => ?_⟩
  · obtain ⟨reason, hreason⟩ := Operation.exists_refusal_eq_internal hlooks
    exact ⟨reason, by rw [hreason]⟩
  · rw [Operation.refusal_of_looksNowhere hlooks]

/-- After an abort source is refused with the fatal error, and a path without keys with another. -/
theorem refuses_of_invalid_aborted :
    let ctx := ((Context.new Machine.blank {}).injectFatal "broken").2
    let host : HostState Unit := ⟨.fresh, ()⟩
    let functions : HostFunctions Unit := fun _ _ host => .returned .null host
    ctx.isValid = false ∧
      (∃ reason, (Operation.evaluate "x").perform functions ctx host =
        some (.error (.internal reason), ctx, host)) ∧
      (Operation.getProperty ⟨[]⟩).perform functions ctx host =
        some (.error (.argumentType "property path must not be empty"), ctx, host) := by
  intro ctx host functions
  have haborted : Step (Context.new Machine.blank {}) ctx :=
    ⟨Unit, functions, .injectFatal "broken", host, host, .error (.internal "broken"), rfl⟩
  have hreached : Reached {} ctx := Relation.ReflTransGen.refl.tail haborted
  exact ⟨rfl, (refuses_of_invalid hreached rfl functions host (.evaluate "x")).1 id,
    (refuses_of_invalid hreached rfl functions host (.getProperty ⟨[]⟩)).2 rfl⟩

end ScriptHost.Context
