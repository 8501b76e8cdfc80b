import ScriptHost.Proofs.Stack.Total

/-!
# Programs with a log

A `Logged` program works on the value stack and writes notes on the way.  Without the notes it is a
program like any other, its erasure.  Notes are kept however a run ends, so a log shows what was
done before a panic too.

* erasure: `erased_bind`, `erased_note`, `erased_within`, …
* `Runs`: a log as the run of an automaton, and `Logged.follows`: the log of every run of a program
  is accepted;
* `Logged.yields`: what a program answers with if all its notes are as they should be.
-/

namespace ScriptHost

variable {M : Machine} {κ ω ν ε ε' α β σ : Type}

/-- A program on the value stack that writes notes: those of a run, in order, and how it ends. -/
def Logged (M : Machine) (κ ω ν ε α : Type) :=
  Handler M κ ω → Session M κ ω → List ν × Outcome M κ ω ε α

namespace Logged

open Stacked

/-- The notes of a run. -/
def log (x : Logged M κ ω ν ε α) (handler : Handler M κ ω) (s : Session M κ ω) : List ν :=
  (x handler s).1

/-- The program without its notes. -/
def erased (x : Logged M κ ω ν ε α) : Stacked M κ ω ε α := fun handler s => (x handler s).2

protected def pure (a : α) : Logged M κ ω ν ε α := fun _ s => ([], .ok a s)

protected def bind (x : Logged M κ ω ν ε α) (f : α → Logged M κ ω ν ε β) : Logged M κ ω ν ε β :=
  fun handler s =>
    match x handler s with
    | (log, .ok a s') => let (rest, outcome) := f a handler s'; (log ++ rest, outcome)
    | (log, .error e s') => (log, .error e s')
    | (log, .panicked payload w) => (log, .panicked payload w)
    | (log, .exhausted) => (log, .exhausted)

instance : Monad (Logged M κ ω ν ε) where
  pure := Logged.pure
  bind := Logged.bind

/-- A program that writes nothing. -/
def quietly (x : Stacked M κ ω ε α) : Logged M κ ω ν ε α := fun handler s => ([], x handler s)

/-- Writes a note. -/
def note (n : ν) : Logged M κ ω ν ε Unit := fun _ s => ([n], .ok () s)

/-- The error as a value. -/
def attempt (x : Logged M κ ω ν ε α) : Logged M κ ω ν ε' (Except ε α) := fun handler s =>
  match x handler s with
  | (log, .ok a s') => (log, .ok (.ok a) s')
  | (log, .error e s') => (log, .ok (.error e) s')
  | (log, .panicked payload w) => (log, .panicked payload w)
  | (log, .exhausted) => (log, .exhausted)

/-- The program with a note before it, and one behind it unless it is broken off. -/
def within (before after : ν) (x : Logged M κ ω ν ε α) : Logged M κ ω ν ε α := fun handler s =>
  match x handler s with
  | (log, .ok a s') => (before :: log ++ [after], .ok a s')
  | (log, .error e s') => (before :: log ++ [after], .error e s')
  | (log, .panicked payload w) => (before :: log, .panicked payload w)
  | (log, .exhausted) => (before :: log, .exhausted)

/-! ## Erasure -/

@[simp] theorem erased_pure (a : α) :
    (pure a : Logged M κ ω ν ε α).erased = (pure a : Stacked M κ ω ε α) := rfl

@[simp] theorem erased_quietly (x : Stacked M κ ω ε α) :
    (quietly x : Logged M κ ω ν ε α).erased = x := rfl

@[simp] theorem erased_bind (x : Logged M κ ω ν ε α) (f : α → Logged M κ ω ν ε β) :
    (x >>= f).erased = x.erased >>= fun a => (f a).erased := by
  funext handler s
  show (Logged.bind x f handler s).2 = Stacked.bind x.erased (fun a => (f a).erased) handler s
  unfold Logged.bind Stacked.bind erased
  split <;> next h => rw [h]

@[simp] theorem erased_note (n : ν) :
    (note n : Logged M κ ω ν ε Unit).erased = (pure () : Stacked M κ ω ε Unit) := rfl

@[simp] theorem erased_attempt (x : Logged M κ ω ν ε α) :
    (x.attempt : Logged M κ ω ν ε' (Except ε α)).erased = x.erased.attempt := by
  funext handler s
  unfold erased attempt Stacked.attempt
  dsimp only
  split <;> next h => rw [h]

@[simp] theorem erased_within (before after : ν) (x : Logged M κ ω ν ε α) :
    (x.within before after).erased = x.erased := by
  funext handler s
  unfold erased within
  split <;> next h => rw [h]

/-! ## Notes -/

theorem log_bind (x : Logged M κ ω ν ε α) (f : α → Logged M κ ω ν ε β) (handler : Handler M κ ω)
    (s : Session M κ ω) :
    (x >>= f).log handler s = x.log handler s ++ match x.erased handler s with
      | .ok a s' => (f a).log handler s'
      | .error .. | .panicked .. | .exhausted => [] := by
  show (Logged.bind x f handler s).1 = _
  unfold Logged.bind log erased
  split <;> next h => simp [h]

theorem log_attempt (x : Logged M κ ω ν ε α) (handler : Handler M κ ω) (s : Session M κ ω) :
    (x.attempt : Logged M κ ω ν ε' (Except ε α)).log handler s = x.log handler s := by
  unfold log attempt
  split <;> next h => rw [h]

theorem log_within (before after : ν) (x : Logged M κ ω ν ε α) (handler : Handler M κ ω)
    (s : Session M κ ω) :
    (x.within before after).log handler s = before :: x.log handler s ++
      match x.erased handler s with
      | .ok .. | .error .. => [after]
      | .panicked .. | .exhausted => [] := by
  unfold log within erased
  split <;> next h => simp [h]

end Logged

/-! ## Logs as runs of an automaton -/

/-- The automaton with these steps reads the log from the first state to the second. -/
inductive Runs (Step : σ → ν → σ → Prop) : σ → List ν → σ → Prop
  | nil (a : σ) : Runs Step a [] a
  | cons {a b c : σ} {n : ν} {log : List ν} (first : Step a n b) (others : Runs Step b log c) :
    Runs Step a (n :: log) c

section

variable {Step : σ → ν → σ → Prop} {a b c : σ} {log log' : List ν}

theorem Runs.append (h : Runs Step a log b) (h' : Runs Step b log' c) :
    Runs Step a (log ++ log') c := by
  induction h with
  | nil => exact h'
  | cons first _ ih => exact .cons first (ih h')

theorem Runs.singleton {n : ν} (h : Step a n b) : Runs Step a [n] b := .cons h (.nil b)

theorem Runs.exists_of_append (h : Runs Step a (log ++ log') c) :
    ∃ b, Runs Step a log b ∧ Runs Step b log' c := by
  induction log generalizing a with
  | nil => exact ⟨a, .nil a, h⟩
  | cons n log ih =>
    obtain _ | ⟨first, others⟩ := h
    obtain ⟨b, hb, hc⟩ := ih others
    exact ⟨b, .cons first hb, hc⟩

/-- A potential that every step lowers by what it costs, but for what it brings, bounds the costs of
a run. -/
theorem Runs.potential (φ : σ → Nat) (cost gain : ν → Bool)
    (hstep : ∀ {a n b}, Step a n b →
      (if cost n then 1 else 0) + φ b ≤ φ a + if gain n then 1 else 0)
    (h : Runs Step a log b) : log.countP cost + φ b ≤ φ a + log.countP gain := by
  induction h with
  | nil => simp
  | cons first _ ih =>
    have := hstep first
    rw [List.countP_cons, List.countP_cons]
    omega

end

namespace Logged

open Stacked

variable {Step : σ → ν → σ → Prop} {handler : Handler M κ ω} {a b : σ} {ok : α → σ → Prop}
  {error : σ → Prop}

/-- The automaton reads the log of every run of `x` from the state `a` on, and is as `ok` or `error`
says if the run ends in this way. -/
def follows (x : Logged M κ ω ν ε α) (handler : Handler M κ ω) (Step : σ → ν → σ → Prop)
    (ok : α → σ → Prop) (error : σ → Prop) (a : σ) : Prop :=
  ∀ s, ∃ b, Runs Step a (x.log handler s) b ∧
    match x.erased handler s with
    | .ok v _ => ok v b
    | .error _ _ => error b
    | .panicked .. | .exhausted => True

theorem follows_pure {v : α} (h : ok v a) :
    (pure v : Logged M κ ω ν ε α).follows handler Step ok error a := fun _ => ⟨a, .nil a, h⟩

theorem follows_fails {x : Stacked M κ ω ε α} (hx : x.Fails) (herror : error a) :
    (quietly x : Logged M κ ω ν ε α).follows handler Step ok error a := by
  refine fun s => ⟨a, .nil a, ?_⟩
  rw [erased_quietly]
  cases hend : x handler s with
  | ok v s' => exact absurd hend (hx handler s v s')
  | error e s' => exact herror
  | panicked payload w => trivial
  | exhausted => trivial

theorem follows_mono {x : Logged M κ ω ν ε α} {ok' : α → σ → Prop} {error' : σ → Prop}
    (h : x.follows handler Step ok error a) (hok : ∀ v b, ok v b → ok' v b)
    (herror : ∀ b, error b → error' b) : x.follows handler Step ok' error' a := by
  intro s
  obtain ⟨b, hruns, hb⟩ := h s
  refine ⟨b, hruns, ?_⟩
  cases hend : x.erased handler s with
  | ok v s' => rw [hend] at hb; exact hok v b hb
  | error e s' => rw [hend] at hb; exact herror b hb
  | panicked payload w => trivial
  | exhausted => trivial

theorem follows_bind {x : Logged M κ ω ν ε α} {f : α → Logged M κ ω ν ε β} {ok' : β → σ → Prop}
    (hx : x.follows handler Step ok error a)
    (hf : ∀ v b, ok v b → (f v).follows handler Step ok' error b) :
    (x >>= f).follows handler Step ok' error a := by
  intro s
  obtain ⟨b, hruns, hb⟩ := hx s
  rw [log_bind, erased_bind, bind_apply]
  cases hend : x.erased handler s with
  | ok v s' =>
    rw [hend] at hb
    obtain ⟨c, hruns', hc⟩ := hf v b hb s'
    exact ⟨c, hruns.append hruns', hc⟩
  | error e s' =>
    rw [hend] at hb
    exact ⟨b, hruns.append (.nil b), hb⟩
  | panicked payload w => exact ⟨b, hruns.append (.nil b), trivial⟩
  | exhausted => exact ⟨b, hruns.append (.nil b), trivial⟩

/-- Nothing is written, so the automaton stays where it is. -/
theorem follows_quietly_bind {x : Stacked M κ ω ε α} {f : α → Logged M κ ω ν ε β}
    {ok : β → σ → Prop} (herror : error a)
    (hf : ∀ s v s', x handler s = .ok v s' → (f v).follows handler Step ok error a) :
    (quietly x >>= f).follows handler Step ok error a := by
  intro s
  rw [log_bind, erased_bind, bind_apply, erased_quietly]
  cases hend : x handler s with
  | ok v s' => exact hf s v s' hend s'
  | error e s' => exact ⟨a, .nil a, herror⟩
  | panicked payload w => exact ⟨a, .nil a, trivial⟩
  | exhausted => exact ⟨a, .nil a, trivial⟩

theorem follows_note_bind {n : ν} {f : Unit → Logged M κ ω ν ε β} {ok : β → σ → Prop}
    (h : Step a n b) (hf : (f ()).follows handler Step ok error b) :
    (note n >>= f).follows handler Step ok error a := by
  intro s
  obtain ⟨c, hruns, hc⟩ := hf s
  exact ⟨c, .cons h hruns, hc⟩

theorem follows_attempt {x : Logged M κ ω ν ε α} {error' : σ → Prop} {ok' : Except ε α → σ → Prop}
    (h : x.follows handler Step (fun v => ok' (.ok v)) (fun b => ∀ e, ok' (.error e) b) a) :
    (x.attempt : Logged M κ ω ν ε' (Except ε α)).follows handler Step ok' error' a := by
  intro s
  obtain ⟨b, hruns, hb⟩ := h s
  rw [log_attempt, erased_attempt, Stacked.attempt]
  refine ⟨b, hruns, ?_⟩
  cases hend : x.erased handler s with
  | ok v s' => rw [hend] at hb; exact hb
  | error e s' => rw [hend] at hb; exact hb e
  | panicked payload w => trivial
  | exhausted => trivial

/-- Behind both ways to end there is a step for the last note. -/
theorem follows_within {x : Logged M κ ω ν ε α} {before after : ν} (hbefore : Step a before b)
    (h : x.follows handler Step (fun v c => ∃ d, Step c after d ∧ ok v d)
      (fun c => ∃ d, Step c after d ∧ error d) b) :
    (x.within before after).follows handler Step ok error a := by
  intro s
  obtain ⟨c, hruns, hc⟩ := h s
  have hruns' := Runs.cons hbefore hruns
  rw [log_within, erased_within]
  cases hend : x.erased handler s with
  | ok v s' =>
    rw [hend] at hc
    obtain ⟨d, hafter, hd⟩ := hc
    exact ⟨d, hruns'.append (.singleton hafter), hd⟩
  | error e s' =>
    rw [hend] at hc
    obtain ⟨d, hafter, hd⟩ := hc
    exact ⟨d, hruns'.append (.singleton hafter), hd⟩
  | panicked payload w => exact ⟨c, hruns'.append (.nil c), trivial⟩
  | exhausted => exact ⟨c, hruns'.append (.nil c), trivial⟩

/-! ## Answers under an assumption on the notes -/

variable {P : ν → Prop} {Q : α → Prop}

/-- Every run of `x` that ends normally answers as `Q` says, if all its notes are as `P` says. -/
def yields (x : Logged M κ ω ν ε α) (handler : Handler M κ ω) (P : ν → Prop)
    (Q : α → Prop) : Prop :=
  ∀ s v s', x.erased handler s = .ok v s' → (∀ n ∈ x.log handler s, P n) → Q v

theorem yields_pure {v : α} (h : Q v) : (pure v : Logged M κ ω ν ε α).yields handler P Q := by
  rintro s v s' hend -
  cases hend
  exact h

theorem yields_fails {x : Stacked M κ ω ε α} (hx : x.Fails) :
    (quietly x : Logged M κ ω ν ε α).yields handler P Q :=
  fun s v s' hend _ => absurd hend (hx handler s v s')

theorem yields_mono {x : Logged M κ ω ν ε α} {Q' : α → Prop} (h : x.yields handler P Q)
    (hQ : ∀ v, Q v → Q' v) : x.yields handler P Q' :=
  fun s v s' hend hnotes => hQ v (h s v s' hend hnotes)

theorem yields_bind {x : Logged M κ ω ν ε α} {f : α → Logged M κ ω ν ε β} {Q' : β → Prop}
    (hx : x.yields handler P Q) (hf : ∀ v, Q v → (f v).yields handler P Q') :
    (x >>= f).yields handler P Q' := by
  intro s w t hend hnotes
  rw [erased_bind] at hend
  obtain ⟨v, s', hfirst, hrest⟩ := exists_of_bind_eq_ok hend
  rw [log_bind, hfirst] at hnotes
  obtain ⟨hnotes, hnotes'⟩ := List.forall_mem_append.mp hnotes
  exact hf v (hx s v s' hfirst hnotes) s' w t hrest hnotes'

theorem yields_quietly_bind {x : Stacked M κ ω ε α} {f : α → Logged M κ ω ν ε β} {Q : β → Prop}
    (hf : ∀ s v s', x handler s = .ok v s' → (f v).yields handler P Q) :
    (quietly x >>= f).yields handler P Q := by
  intro s w t hend hnotes
  rw [erased_bind] at hend
  obtain ⟨v, s', hfirst, hrest⟩ := exists_of_bind_eq_ok hend
  rw [log_bind, hfirst] at hnotes
  exact hf s v s' hfirst s' w t hrest hnotes

theorem yields_note_bind {n : ν} {f : Unit → Logged M κ ω ν ε β} {Q : β → Prop}
    (hf : P n → (f ()).yields handler P Q) : (note n >>= f).yields handler P Q := by
  intro s v s' hend hnotes
  obtain ⟨hn, hnotes⟩ := List.forall_mem_cons.mp hnotes
  exact hf hn s v s' hend hnotes

theorem yields_attempt {x : Logged M κ ω ν ε α} (h : x.yields handler P Q) :
    (x.attempt : Logged M κ ω ν ε' (Except ε α)).yields handler P fun r => ∀ v, r =
      .ok v → Q v := by
  rintro s _ s' hend hnotes v rfl
  rw [log_attempt] at hnotes
  rw [erased_attempt] at hend
  exact h s v s' (run_of_attempt_eq_ok hend) hnotes

theorem yields_within {x : Logged M κ ω ν ε α} {before after : ν} (h : x.yields handler P Q) :
    (x.within before after).yields handler P Q := by
  intro s v s' hend hnotes
  rw [erased_within] at hend
  rw [log_within] at hnotes
  exact h s v s' hend (List.forall_mem_cons.mp (List.forall_mem_append.mp hnotes).1).2

end Logged

end ScriptHost
