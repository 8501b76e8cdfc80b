import ScriptHost.Proofs.Stack.Assembled

/-!
# Poison is never taken back

A program is *honest* if it keeps the reason of a stack that is poisoned already, and ends with a
fatal error only on a poisoned stack.  Which errors are fatal is a parameter; with none at all, only
the first half is left (`KeepsPoison`).

* `Honest.bind`, `Honest.attempt_bind`: what follows a caught fatal error has only
  to keep the poison;
* `Assembled.honest`: **an assembled program is honest**, whatever the machine and
  the host functions do.
-/

namespace ScriptHost

variable {M : Machine} {κ ω ε ε' α β : Type}

theorem Session.Retains.trans {s s' s'' : Session M κ ω} (h : s.Retains s') (h' : s'.Retains s'') :
    s.Retains s'' := fun _ hs => h' _ (h _ hs)

theorem Session.Retains.isSome {s s' : Session M κ ω} (h : s.Retains s')
    (hs : s.poison.isSome = true) : s'.poison.isSome = true := by
  obtain ⟨reason, hr⟩ := Option.isSome_iff_exists.mp hs
  exact Option.isSome_iff_exists.mpr ⟨reason, h reason hr⟩

namespace Stacked

/-- The program keeps the poison of the stack, and its fatal errors come with a poisoned stack. -/
def Honest (fatal : ε → Bool) (x : Stacked M κ ω ε α) : Prop :=
  ∀ handler s, x.wp handler
    ⟨fun _ s' => s.Retains s',
      fun e s' => s.Retains s' ∧ (fatal e = true → s'.poison.isSome = true), fun _ _ => True⟩ s

/-- The program keeps the poison of the stack. -/
abbrev KeepsPoison (x : Stacked M κ ω ε α) : Prop := x.Honest fun _ => false

variable {fatal : ε → Bool}

/-- A run of the machine does not reach the stack that it was started from. -/
theorem honest_act (f : M.State → Act M.State α) :
    (act f : Stacked M κ ω ε (Except Failure α)).Honest fatal := by
  intro handler s
  rw [wp_act]
  cases (f s.world.machine).drive handler s.world with
  | ended result w => exact Session.Retains.of_eq rfl
  | panicked payload w => trivial
  | exhausted => trivial

theorem Honest.bindGiven {x : Stacked M κ ω ε α} {f : α → Stacked M κ ω ε β} {P : α → Prop}
    (hx : x.Honest fatal) (hgives : x.Gives P) (hf : ∀ a, P a → (f a).Honest fatal) :
    (x >>= f).Honest fatal := by
  intro handler s
  refine wp_bind_of (wp_and (hx handler s) (hgives handler s)) (fun a s' h => ?_) (fun _ _ h => h.1)
    fun _ _ _ => trivial
  exact wp_mono (hf a h.2 handler s') (fun _ _ h' => h.1.trans h')
    (fun _ _ h' => ⟨h.1.trans h'.1, h'.2⟩) fun _ _ _ => trivial

/-- A caught error goes on to `f`.  If it was fatal, the stack is poisoned by then, and all that is
asked of `f` is to leave it so. -/
theorem Honest.attempt_bind {fatal' : ε' → Bool} {x : Stacked M κ ω ε α}
    {f : Except ε α → Stacked M κ ω ε' β} (hx : x.Honest fatal)
    (hok : ∀ a, (f (.ok a)).Honest fatal')
    (herror : ∀ e, fatal e = false → (f (.error e)).Honest fatal')
    (hkeeps : ∀ e, (f (.error e)).KeepsPoison) : (x.attempt >>= f).Honest fatal' := by
  intro handler s
  rw [wp_bind, wp_attempt]
  refine wp_mono (hx handler s) (fun a s' h => ?_) (fun e s' h => ?_) fun _ _ _ => trivial
  · exact wp_mono (hok a handler s') (fun _ _ h' => h.trans h')
      (fun _ _ h' => ⟨h.trans h'.1, h'.2⟩) fun _ _ _ => trivial
  · cases he : fatal e with
    | false =>
      exact wp_mono (herror e he handler s') (fun _ _ h' => h.1.trans h')
        (fun _ _ h' => ⟨h.1.trans h'.1, h'.2⟩) fun _ _ _ => trivial
    | true =>
      exact wp_mono (hkeeps e handler s') (fun _ _ h' => h.1.trans h')
        (fun _ _ h' => ⟨h.1.trans h'.1, fun _ => h'.1.isSome (h.2 he)⟩) fun _ _ _ => trivial

theorem Honest.mapError {fatal' : ε' → Bool} {g : ε → ε'} {x : Stacked M κ ω ε α}
    (hx : x.Honest fatal) (hg : ∀ e, fatal' (g e) = true → fatal e = true) :
    (x.mapError g).Honest fatal' := by
  intro handler s
  rw [wp_mapError]
  exact wp_mono (hx handler s) (fun _ _ h => h) (fun e _ h => ⟨h.1, fun he => h.2 (hg e he)⟩)
    fun _ _ _ => trivial

/-- **Poison is never taken back**, and what is called fatal is backed by it. -/
theorem Assembled.honest {touches : ω → ω → Prop} {x : Stacked M κ ω ε α}
    (hx : x.Assembled touches fatal) : x.Honest fatal := by
  induction hx with
  | pure | read | withHost | make => exact fun _ _ => .of_eq rfl
  | fail he => exact fun _ _ => ⟨.of_eq rfl, fun h => absurd (he.symm.trans h) (by simp)⟩
  | abort e hf hpoison _ => exact fun _ s => ⟨hf s, fun _ => hpoison s⟩
  | @unlessPoisoned _ _ _ x e _ ih =>
    intro handler s
    rw [wp_bind, wp_read]
    dsimp only
    split
    · next hs => exact ⟨.of_eq rfl, fun _ => hs⟩
    · exact ih handler s
  | panic payload => exact fun _ _ => trivial
  | update hf _ => exact fun _ s => hf s
  | @act _ _ _ f _ => exact honest_act f
  | mapError hg _ ih => exact ih.mapError hg
  | attempt _ _ _ _ ihx ihok iherror ihkeeps => exact ihx.attempt_bind ihok iherror ihkeeps
  | bindGiven _ hgives _ ihx ihf => exact ihx.bindGiven hgives ihf

end Stacked

end ScriptHost
