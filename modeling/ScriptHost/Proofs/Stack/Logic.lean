import ScriptHost.Stack.Native

/-!
# Weakest preconditions of programs on the value stack

`x.wp handler Q s` says that the run of the program `x` from the session `s` ends only in ways that
`Q` allows: normally, with an error, or by a panic, each with a predicate of its own.  A run that is
longer than allowed ends in no way, so nothing is asked of it.

* one equation for each way to build a program: `wp_pure`, `wp_bind`, `wp_attempt`, `wp_mapError`,
  `wp_read`, `wp_update`, `wp_make`, `wp_withHost`, `wp_act`, `wp_fail`, `wp_panic`;
* weakening and putting together: `wp_mono`, `wp_imp`, `wp_and`;
* a program whose first half has been dealt with: `wp_bind_of`, `wp_then`.
-/

namespace ScriptHost

variable {M : Machine} {κ ω ε ε' α β : Type}

/-- What a run may end with. -/
structure Post (M : Machine) (κ ω ε α : Type) where
  ok : α → Session M κ ω → Prop
  error : ε → Session M κ ω → Prop
  panicked : Payload → World M κ ω → Prop

namespace Stacked

instance : LawfulMonad (Stacked M κ ω ε) := by
  refine LawfulMonad.mk' _ (fun x => ?_) (fun _ _ => rfl) fun x f g => ?_
  · funext handler s
    show Stacked.bind x (fun a => Stacked.pure a) handler s = x handler s
    unfold Stacked.bind
    cases x handler s <;> rfl
  · funext handler s
    show Stacked.bind (Stacked.bind x f) g handler s =
      Stacked.bind x (fun a => Stacked.bind (f a) g) handler s
    unfold Stacked.bind
    cases x handler s <;> rfl

/-- **The weakest precondition**: the run of `x` from `s` ends as `Q` allows, if it ends. -/
def wp (x : Stacked M κ ω ε α) (handler : Handler M κ ω) (Q : Post M κ ω ε α)
    (s : Session M κ ω) : Prop :=
  match x handler s with
  | .ok a s' => Q.ok a s'
  | .error e s' => Q.error e s'
  | .panicked payload w => Q.panicked payload w
  | .exhausted => True

variable {handler : Handler M κ ω} {s : Session M κ ω}

theorem bind_apply (x : Stacked M κ ω ε α) (f : α → Stacked M κ ω ε β) :
    (x >>= f) handler s = match x handler s with
      | .ok a s' => f a handler s'
      | .error e s' => .error e s'
      | .panicked payload w => .panicked payload w
      | .exhausted => .exhausted := rfl

@[simp] theorem wp_pure {Q : Post M κ ω ε α} (a : α) :
    (pure a : Stacked M κ ω ε α).wp handler Q s ↔ Q.ok a s := Iff.rfl

@[simp] theorem wp_fail {Q : Post M κ ω ε α} (e : ε) :
    (fail e : Stacked M κ ω ε α).wp handler Q s ↔ Q.error e s := Iff.rfl

@[simp] theorem wp_panic {Q : Post M κ ω ε α} (payload : Payload) :
    (panic payload : Stacked M κ ω ε α).wp handler Q s ↔ Q.panicked payload s.world := Iff.rfl

@[simp] theorem wp_read {Q : Post M κ ω ε α} (f : Session M κ ω → α) :
    (read f : Stacked M κ ω ε α).wp handler Q s ↔ Q.ok (f s) s := Iff.rfl

@[simp] theorem wp_update {Q : Post M κ ω ε Unit} (f : Session M κ ω → Session M κ ω) :
    (update f : Stacked M κ ω ε Unit).wp handler Q s ↔ Q.ok () (f s) := Iff.rfl

@[simp] theorem wp_make {Q : Post M κ ω ε α} (f : M.State → α × M.State) :
    (make f : Stacked M κ ω ε α).wp handler Q s ↔
      Q.ok (f s.world.machine).1
        { s with world := { s.world with machine := (f s.world.machine).2 } } := Iff.rfl

@[simp] theorem wp_withHost {Q : Post M κ ω ε α} (f : ω → α × ω) :
    (withHost f : Stacked M κ ω ε α).wp handler Q s ↔
      Q.ok (f s.world.host).1 { s with world := { s.world with host := (f s.world.host).2 } } :=
  Iff.rfl

@[simp] theorem wp_bind {Q : Post M κ ω ε β} (x : Stacked M κ ω ε α) (f : α → Stacked M κ ω ε β) :
    (x >>= f).wp handler Q s ↔
      x.wp handler ⟨fun a s' => (f a).wp handler Q s', Q.error, Q.panicked⟩ s := by
  unfold wp
  rw [bind_apply]
  cases x handler s <;> rfl

@[simp] theorem wp_attempt {Q : Post M κ ω ε' (Except ε α)} (x : Stacked M κ ω ε α) :
    (x.attempt : Stacked M κ ω ε' (Except ε α)).wp handler Q s ↔
      x.wp handler ⟨fun a => Q.ok (.ok a), fun e => Q.ok (.error e), Q.panicked⟩ s := by
  unfold wp attempt
  cases x handler s <;> rfl

@[simp] theorem wp_mapError {Q : Post M κ ω ε' α} (f : ε → ε') (x : Stacked M κ ω ε α) :
    (x.mapError f).wp handler Q s ↔ x.wp handler ⟨Q.ok, fun e => Q.error (f e), Q.panicked⟩ s := by
  unfold wp mapError
  cases x handler s <;> rfl

theorem wp_act {Q : Post M κ ω ε (Except Failure α)} (f : M.State → Act M.State α) :
    (act f : Stacked M κ ω ε (Except Failure α)).wp handler Q s ↔
      match (f s.world.machine).drive handler s.world with
      | .ended result w => Q.ok result { s with world := w }
      | .panicked payload w => Q.panicked payload w
      | .exhausted => True := by
  unfold wp act
  cases (f s.world.machine).drive handler s.world <;> rfl

theorem ok_of_wp {x : Stacked M κ ω ε α} {Q : Post M κ ω ε α} {a : α} {s' : Session M κ ω}
    (h : x.wp handler Q s) (hx : x handler s = .ok a s') : Q.ok a s' := by
  unfold wp at h
  rwa [hx] at h

theorem error_of_wp {x : Stacked M κ ω ε α} {Q : Post M κ ω ε α} {e : ε} {s' : Session M κ ω}
    (h : x.wp handler Q s) (hx : x handler s = .error e s') : Q.error e s' := by
  unfold wp at h
  rwa [hx] at h

theorem wp_mono {x : Stacked M κ ω ε α} {P Q : Post M κ ω ε α} (h : x.wp handler P s)
    (hok : ∀ a s', P.ok a s' → Q.ok a s') (herror : ∀ e s', P.error e s' → Q.error e s')
    (hpanicked : ∀ payload w, P.panicked payload w → Q.panicked payload w) :
    x.wp handler Q s := by
  unfold wp at h ⊢
  cases hx : x handler s with
  | ok a s' => rw [hx] at h; exact hok a s' h
  | error e s' => rw [hx] at h; exact herror e s' h
  | panicked payload w => rw [hx] at h; exact hpanicked payload w h
  | exhausted => trivial

theorem wp_and {x : Stacked M κ ω ε α} {P Q : Post M κ ω ε α} (hP : x.wp handler P s)
    (hQ : x.wp handler Q s) :
    x.wp handler ⟨fun a s' => P.ok a s' ∧ Q.ok a s', fun e s' => P.error e s' ∧ Q.error e s',
      fun payload w => P.panicked payload w ∧ Q.panicked payload w⟩ s := by
  unfold wp at hP hQ ⊢
  cases hx : x handler s with
  | ok a s' => rw [hx] at hP hQ; exact ⟨hP, hQ⟩
  | error e s' => rw [hx] at hP hQ; exact ⟨hP, hQ⟩
  | panicked payload w => rw [hx] at hP hQ; exact ⟨hP, hQ⟩
  | exhausted => trivial

theorem wp_bind_any {x : Stacked M κ ω ε α} {f : α → Stacked M κ ω ε β} {P : β → Prop}
    (hf : ∀ a s', (f a).wp handler ⟨fun b _ => P b, fun _ _ => True, fun _ _ => True⟩ s') :
    (x >>= f).wp handler ⟨fun b _ => P b, fun _ _ => True, fun _ _ => True⟩ s := by
  rw [wp_bind]
  unfold wp
  cases x handler s with
  | ok a s' => exact hf a s'
  | error e s' => trivial
  | panicked payload w => trivial
  | exhausted => trivial

theorem wp_bind_of {x : Stacked M κ ω ε α} {f : α → Stacked M κ ω ε β} {P : Post M κ ω ε α}
    {Q : Post M κ ω ε β} (h : x.wp handler P s)
    (hok : ∀ a s', P.ok a s' → (f a).wp handler Q s')
    (herror : ∀ e s', P.error e s' → Q.error e s')
    (hpanicked : ∀ payload w, P.panicked payload w → Q.panicked payload w) :
    (x >>= f).wp handler Q s :=
  (wp_bind x f).mpr (wp_mono h hok herror hpanicked)

theorem wp_then {x : Stacked M κ ω ε α} {f : α → Stacked M κ ω ε β}
    {P : α → Session M κ ω → Prop} {Q : Post M κ ω ε β}
    (h : x.wp handler ⟨P, Q.error, Q.panicked⟩ s)
    (hok : ∀ a s', P a s' → (f a).wp handler Q s') : (x >>= f).wp handler Q s :=
  wp_bind_of h hok (fun _ _ h => h) fun _ _ h => h

theorem wp_imp {x : Stacked M κ ω ε α} {P : α → Session M κ ω → Prop} {Q : Post M κ ω ε α}
    (h : x.wp handler ⟨P, Q.error, Q.panicked⟩ s) (hok : ∀ a s', P a s' → Q.ok a s') :
    x.wp handler Q s :=
  wp_mono h hok (fun _ _ h => h) fun _ _ h => h

end Stacked

end ScriptHost
