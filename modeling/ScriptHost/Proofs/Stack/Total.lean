import ScriptHost.Proofs.Stack.Logic

/-!
# Programs that end

`x.ends handler ok error s` says that the run of the program `x` from the session `s` comes to an
end, normally as `ok` says or with an error as `error` says.  Unlike the weakest precondition it
does not admit a panic, nor a run that is longer than allowed; with `fun _ _ => False` for `error`
it says that the program succeeds.

* equations for the ways to build a program, as for `wp`;
* weakening and sequences: `ends_mono`, `ends_then`, `ends_next`;
* a machine operation that runs no script: `ends_act`;
* programs that succeed exactly if something holds: `succeedsIff_bind`.
-/

namespace ScriptHost

variable {M : Machine} {κ ω ε ε' α β : Type}

/-- The run has ended with this result. -/
def Outcome.ofResult (result : Except ε α) (s : Session M κ ω) : Outcome M κ ω ε α :=
  match result with
  | .ok a => .ok a s
  | .error e => .error e s

namespace Stacked

/-- The run of `x` from `s` ends, normally or with an error, each as its predicate says. -/
def ends (x : Stacked M κ ω ε α) (handler : Handler M κ ω) (ok : α → Session M κ ω → Prop)
    (error : ε → Session M κ ω → Prop) (s : Session M κ ω) : Prop :=
  match x handler s with
  | .ok a s' => ok a s'
  | .error e s' => error e s'
  | .panicked .. | .exhausted => False

variable {handler : Handler M κ ω} {s : Session M κ ω} {ok : α → Session M κ ω → Prop}
  {error : ε → Session M κ ω → Prop}

@[simp] theorem ends_pure (a : α) :
    (pure a : Stacked M κ ω ε α).ends handler ok error s ↔ ok a s := Iff.rfl

@[simp] theorem ends_read (f : Session M κ ω → α) :
    (read f : Stacked M κ ω ε α).ends handler ok error s ↔ ok (f s) s := Iff.rfl

@[simp] theorem ends_update {ok : Unit → Session M κ ω → Prop} (f : Session M κ ω → Session M κ ω) :
    (update f : Stacked M κ ω ε Unit).ends handler ok error s ↔ ok () (f s) := Iff.rfl

@[simp] theorem ends_bind {ok : β → Session M κ ω → Prop} (x : Stacked M κ ω ε α)
    (f : α → Stacked M κ ω ε β) :
    (x >>= f).ends handler ok error s ↔
      x.ends handler (fun a s' => (f a).ends handler ok error s') error s := by
  unfold ends
  rw [bind_apply]
  cases x handler s <;> rfl

@[simp] theorem ends_attempt {ok : Except ε α → Session M κ ω → Prop}
    {error : ε' → Session M κ ω → Prop} (x : Stacked M κ ω ε α) :
    (x.attempt : Stacked M κ ω ε' (Except ε α)).ends handler ok error s ↔
      x.ends handler (fun a => ok (.ok a)) (fun e => ok (.error e)) s := by
  unfold ends attempt
  cases x handler s <;> rfl

theorem ends_act {ok : Except Failure α → Session M κ ω → Prop} {f : M.State → Act M.State α}
    {t : M.State} {result : Except Failure α} (h : f s.world.machine = .done t result) :
    (act f : Stacked M κ ω ε (Except Failure α)).ends handler ok error s ↔
      ok result { s with world := { s.world with machine := t } } := by
  unfold ends act
  rw [h]
  rfl

/-- A program that ends in one way ends in any way that follows from it. -/
theorem ends_mono {x : Stacked M κ ω ε α} {ok' : α → Session M κ ω → Prop}
    {error' : ε → Session M κ ω → Prop} (h : x.ends handler ok error s)
    (hok : ∀ a s', ok a s' → ok' a s') (herror : ∀ e s', error e s' → error' e s') :
    x.ends handler ok' error' s := by
  unfold ends at h ⊢
  cases hx : x handler s with
  | ok a s' => rw [hx] at h; exact hok a s' h
  | error e s' => rw [hx] at h; exact herror e s' h
  | panicked payload w => rw [hx] at h; exact h
  | exhausted => rw [hx] at h; exact h

theorem ends_then {x : Stacked M κ ω ε α} {f : α → Stacked M κ ω ε β}
    {ok' : β → Session M κ ω → Prop} {error' : ε → Session M κ ω → Prop}
    (h : x.ends handler ok error s) (hok : ∀ a s', ok a s' → (f a).ends handler ok' error' s')
    (herror : ∀ e s', error e s' → error' e s') : (x >>= f).ends handler ok' error' s :=
  (ends_bind x f).mpr (ends_mono h hok herror)

theorem ends_next {x : Stacked M κ ω ε α} {f : α → Stacked M κ ω ε β}
    {ok' : β → Session M κ ω → Prop} {error' : ε → Session M κ ω → Prop}
    (h : x.ends handler ok (fun _ _ => False) s)
    (hok : ∀ a s', ok a s' → (f a).ends handler ok' error' s') :
    (x >>= f).ends handler ok' error' s :=
  ends_then h hok fun _ _ h => h.elim

theorem outcome_of_ends {x : Stacked M κ ω ε α} (h : x.ends handler ok error s) :
    (∃ a s', x handler s = .ok a s' ∧ ok a s') ∨ ∃ e s', x handler s = .error e s' ∧
      error e s' := by
  unfold ends at h
  cases hx : x handler s with
  | ok a s' => rw [hx] at h; exact .inl ⟨a, s', rfl, h⟩
  | error e s' => rw [hx] at h; exact .inr ⟨e, s', rfl, h⟩
  | panicked payload w => rw [hx] at h; exact h.elim
  | exhausted => rw [hx] at h; exact h.elim

theorem run_of_ends {x : Stacked M κ ω ε Unit} {t : Session M κ ω}
    (h : x.ends handler (fun _ s' => s' = t) (fun _ _ => False) s) : x handler s = .ok () t := by
  rcases outcome_of_ends h with ⟨_, s', hrun, rfl⟩ | ⟨_, _, _, h⟩
  · exact hrun
  · exact h.elim

/-! ## Programs that never succeed -/

/-- No run of the program ends normally. -/
def Fails (x : Stacked M κ ω ε α) : Prop := ∀ handler s a s', x handler s ≠ .ok a s'

theorem fails_fail (e : ε) : (fail e : Stacked M κ ω ε α).Fails := by
  intro handler s a s' h
  cases h

/-- Of a program that never succeeds, anything can be said of its success. -/
theorem Fails.wp {x : Stacked M κ ω ε α} (hx : x.Fails) {P : α → Session M κ ω → Prop} :
    x.wp handler ⟨P, fun _ _ => True, fun _ _ => True⟩ s := by
  unfold Stacked.wp
  split
  · exact absurd ‹_› (hx _ _ _ _)
  · trivial
  · trivial
  · trivial

theorem exists_of_bind_eq_ok {x : Stacked M κ ω ε α} {f : α → Stacked M κ ω ε β} {b : β}
    {t : Session M κ ω} (h : (x >>= f) handler s = .ok b t) :
    ∃ a s', x handler s = .ok a s' ∧ f a handler s' = .ok b t := by
  rw [bind_apply] at h
  cases hx : x handler s with
  | ok a s' => rw [hx] at h; exact ⟨a, s', rfl, h⟩
  | error e s' => rw [hx] at h; cases h
  | panicked payload w => rw [hx] at h; cases h
  | exhausted => rw [hx] at h; cases h

theorem run_of_attempt_eq_ok {x : Stacked M κ ω ε α} {result : Except ε α} {t : Session M κ ω}
    (h : (x.attempt : Stacked M κ ω ε' (Except ε α)) handler s = .ok result t) :
    x handler s = match result with
      | .ok a => .ok a t
      | .error e => .error e t := by
  rw [attempt] at h
  cases hx : x handler s with
  | ok a s' => rw [hx] at h; cases h; rfl
  | error e s' => rw [hx] at h; cases h; rfl
  | panicked payload w => rw [hx] at h; cases h
  | exhausted => rw [hx] at h; cases h

theorem fails_bind {x : Stacked M κ ω ε α} {f : α → Stacked M κ ω ε β} (hf : ∀ a, (f a).Fails) :
    (x >>= f).Fails := by
  intro handler s b t h
  obtain ⟨a, s', -, hrest⟩ := exists_of_bind_eq_ok h
  exact hf a handler s' b t hrest

theorem fails_mapError {x : Stacked M κ ω ε α} (f : ε → ε') (hx : x.Fails) :
    (x.mapError f).Fails := by
  intro handler s a s' h
  rw [mapError] at h
  cases hrun : x handler s with
  | ok b t => exact hx handler s b t hrun
  | error e t => rw [hrun] at h; cases h
  | panicked payload w => rw [hrun] at h; cases h
  | exhausted => rw [hrun] at h; cases h

/-! ## Programs that succeed exactly if something holds -/

/-- The run of `x` from `s` succeeds as `ok` says if `accepted` holds.  If it does not hold, the run
ends in some other way, or not at all. -/
def succeedsIff (x : Stacked M κ ω ε α) (handler : Handler M κ ω) (accepted : Prop)
    (ok : α → Session M κ ω → Prop) (s : Session M κ ω) : Prop :=
  (accepted ∧ x.ends handler ok (fun _ _ => False) s) ∨
    ¬ accepted ∧ ∀ a s', x handler s ≠ .ok a s'

variable {accepted accepted' : Prop}

theorem succeedsIff_of_ends {x : Stacked M κ ω ε α} (h : x.ends handler ok (fun _ _ => False) s)
    (haccepted : accepted) : x.succeedsIff handler accepted ok s := .inl ⟨haccepted, h⟩

theorem succeedsIff_of_fails {x : Stacked M κ ω ε α} (h : x.Fails) (hrejected : ¬ accepted) :
    x.succeedsIff handler accepted ok s := .inr ⟨hrejected, h handler s⟩

theorem succeedsIff_congr {x : Stacked M κ ω ε α} (h : x.succeedsIff handler accepted ok s)
    (hiff : accepted ↔ accepted') : x.succeedsIff handler accepted' ok s := propext hiff ▸ h

theorem succeedsIff_mono {x : Stacked M κ ω ε α} {ok' : α → Session M κ ω → Prop}
    (h : x.succeedsIff handler accepted ok s) (hok : ∀ a s', ok a s' → ok' a s') :
    x.succeedsIff handler accepted ok' s :=
  h.imp (fun h => ⟨h.1, ends_mono h.2 hok fun _ _ h => h⟩) id

/-- What is said of the runs of such a program. -/
theorem run_of_succeedsIff {x : Stacked M κ ω ε α} (h : x.succeedsIff handler accepted ok s) :
    ((∃ a s', x handler s = .ok a s') ↔ accepted) ∧ ∀ a s', x handler s = .ok a s' → ok a s' := by
  rcases h with ⟨haccepted, h⟩ | ⟨hrejected, h⟩
  · rcases outcome_of_ends h with ⟨a, s', hrun, hok⟩ | ⟨_, _, -, hfalse⟩
    · refine ⟨⟨fun _ => haccepted, fun _ => ⟨a, s', hrun⟩⟩, fun b t hrun' => ?_⟩
      rw [hrun] at hrun'
      cases hrun'
      exact hok
    · exact hfalse.elim
  · exact ⟨⟨fun ⟨a, s', hrun⟩ => (h a s' hrun).elim, fun h => (hrejected h).elim⟩,
      fun a s' hrun => (h a s' hrun).elim⟩

/-- A sequence succeeds if both halves do. -/
theorem succeedsIff_bind {x : Stacked M κ ω ε α} {f : α → Stacked M κ ω ε β}
    {ok' : β → Session M κ ω → Prop} (hx : x.succeedsIff handler accepted ok s)
    (hf : accepted → ∀ a s', ok a s' → (f a).succeedsIff handler accepted' ok' s') :
    (x >>= f).succeedsIff handler (accepted ∧ accepted') ok' s := by
  rcases hx with ⟨haccepted, hx⟩ | ⟨hrejected, hx⟩
  · rcases outcome_of_ends hx with ⟨a, s', hrun, hok⟩ | ⟨_, _, -, hfalse⟩
    · rcases hf haccepted a s' hok with ⟨haccepted', hf⟩ | ⟨hrejected', hf⟩
      · refine .inl ⟨⟨haccepted, haccepted'⟩, ?_⟩
        rw [ends, bind_apply, hrun]
        exact hf
      · refine .inr ⟨fun h => hrejected' h.2, fun b t => ?_⟩
        rw [bind_apply, hrun]
        exact hf b t
    · exact hfalse.elim
  · refine .inr ⟨fun h => hrejected h.1, fun b t h => ?_⟩
    obtain ⟨a, s', hrun, -⟩ := exists_of_bind_eq_ok h
    exact hx a s' hrun

theorem succeedsIff_next {x : Stacked M κ ω ε α} {f : α → Stacked M κ ω ε β}
    {ok' : β → Session M κ ω → Prop} (hx : x.ends handler ok (fun _ _ => False) s)
    (hf : ∀ a s', ok a s' → (f a).succeedsIff handler accepted ok' s') :
    (x >>= f).succeedsIff handler accepted ok' s :=
  succeedsIff_congr (succeedsIff_bind (succeedsIff_of_ends hx trivial) fun _ => hf)
    (and_iff_right trivial)

/-- Work whose failure is looked at before it is passed on. -/
theorem succeedsIff_attempt {x : Stacked M κ ω ε α} {f : Except ε α → Stacked M κ ω ε' β}
    {ok' : β → Session M κ ω → Prop} (hx : x.succeedsIff handler accepted ok s)
    (hf : ∀ a s', ok a s' → (f (.ok a)).ends handler ok' (fun _ _ => False) s')
    (herror : ∀ e, (f (.error e)).Fails) : (x.attempt >>= f).succeedsIff handler
      accepted ok' s := by
  rcases hx with ⟨haccepted, hx⟩ | ⟨hrejected, hx⟩
  · refine succeedsIff_of_ends ?_ haccepted
    rw [ends_bind, ends_attempt]
    exact ends_mono hx hf fun _ _ h => h.elim
  · refine .inr ⟨hrejected, fun b t h => ?_⟩
    obtain ⟨result, s', hattempt, hrest⟩ := exists_of_bind_eq_ok h
    cases result with
    | ok a => exact hx a s' (run_of_attempt_eq_ok hattempt)
    | error e => exact herror e handler s' b t hrest

end Stacked

end ScriptHost
