import ScriptHost.Proofs.Crossing.Effect
import ScriptHost.Stack.Native

/-!
# Calls from script into the host end well

A host function that does not panic, called by a script on a machine that can be relied on, ends on
an unpoisoned stack and throws at most: whatever it is called with, however deep, and whatever it
answers, fails with or asks for.  So script can go on, and all machine runs can be relied on in
turn.

* `invoke_spec`: one call;
* `keeps_nestedHandler`: **calls nested to any depth keep arrays and do not panic.**

If panics are let through, the same is said of what is left: `invoke_spec_of_tolerated` and
`trust_nestedHandler_always`.
-/

namespace ScriptHost

open Stack Stacked Crossing

variable {M : Machine} {δ : Type}

/-- The host function returns or fails, whatever it is told about its receiver. -/
def HostRun.NeverPanics {ω : Type} : HostRun ω → Prop
  | .returned .. | .failed .. => True
  | .panicked .. => False
  | .askThis _ next => ∀ this host, (next this host).NeverPanics

/-- No host function panics. -/
def HostFunctions.NeverPanic (functions : HostFunctions δ) : Prop :=
  ∀ function args host, (functions function args host).NeverPanics

/-- There are no panics. -/
abbrev never (_ : Payload) (_ : World M BoundFunction (HostState δ)) : Prop := False

/-- All panics are let through. -/
abbrev always (_ : Payload) (_ : World M BoundFunction (HostState δ)) : Prop := True

namespace Crossing

variable {handler : Handler M BoundFunction (HostState δ)}
  {s s₁ : Session M BoundFunction (HostState δ)} {a : Array ScriptValue}
  {broken : Payload → World M BoundFunction (HostState δ) → Prop}

/-- An argument that cannot be converted is an answer too. -/
theorem readArguments_spec (T : Trust handler broken) (hp : s.poison = none) (m : Marshaller)
    (count next : Nat) (hn : next + count ≤ a.size) (hs : s.Becomes a s₁)
    {E : EngineError → Session M BoundFunction (HostState δ) → Prop} :
    (readArguments m count next : Crossing M δ EngineError _).wp handler
      ⟨fun _ => s.Becomes a, E, broken⟩ s₁ := by
  induction count generalizing next s₁ with
  | zero => exact hs
  | succ count ih =>
    unfold readArguments
    refine wp_then (dup_spec hs (by omega)) ?_
    rintro _ s₂ ⟨v, h₂⟩
    rw [wp_bind, wp_attempt]
    refine wp_mono (m.pop_spec T hp h₂) (fun arg s₃ h₃ => ?_) (fun e s₃ h₃ => h₃.2) fun _ _ h => h
    refine wp_then (ih (next + 1) (by omega) h₃) fun rest s₄ h₄ => ?_
    cases rest with
    | ok rest => exact h₄
    | error e => exact h₄

theorem readThis_spec (T : Trust handler broken) (hp : s.poison = none) (m : Marshaller)
    (ha : 0 < a.size) (hs : s.Becomes a s₁) :
    (readThis m : Crossing M δ Error HostValue).wp handler
      (orFails (s.Becomes a) broken fun _ => s.Becomes a) s₁ := by
  have hdup : ((dup 0).mapError Error.ofEngineError : Crossing M δ Error Unit).wp handler
      (orFails (s.Becomes a) broken fun _ s' => ∃ v, s.Becomes (a.push v) s') s₁ :=
    (wp_mapError _ _).mpr
      (wp_mono (dup_spec (E := fun _ _ => False) hs ha) (fun _ _ h => h) (fun _ _ h => h.elim)
        fun _ _ h => h)
  unfold readThis
  refine wp_then hdup ?_
  rintro _ s₂ ⟨v, h₂⟩
  exact m.pop_spec T hp h₂

/-- The run of a host function, with the receiver read as often as it asks. -/
theorem carryOut_spec (T : Trust handler broken) (hp : s.poison = none) (m : Marshaller)
    (ha : 0 < a.size) {run : HostRun (HostState δ)} (hrun : run.NeverPanics ∨ LetsPanic broken)
    (hs : s.Becomes a s₁)
    {E : EngineError → Session M BoundFunction (HostState δ) → Prop} :
    (carryOut m run : Crossing M δ EngineError HostResult).wp handler
      ⟨fun _ => s.Becomes a, E, broken⟩ s₁ := by
  induction run generalizing s₁ with
  | returned v host => exact hs.setWorld (.refl _)
  | failed failure host => exact hs.setWorld (.refl _)
  | panicked payload host => exact hrun.elim False.elim fun h => h payload _
  | askThis host next ih =>
    have h₂ : s.Becomes a { s₁ with world := { s₁.world with host := host } } :=
      hs.setWorld (.refl _)
    unfold carryOut
    rw [wp_bind, wp_withHost]
    dsimp only
    rw [wp_bind, wp_attempt]
    refine wp_mono (readThis_spec T hp m ha h₂) (fun this s₃ h₃ => ?_) (fun e s₃ h₃ => ?_)
      fun _ _ h => h
    · exact ih (.ok this) s₃.world.host (hrun.imp_left fun h => h _ _) h₃
    · exact ih (.error e) s₃.world.host (hrun.imp_left fun h => h _ _) h₃.2

theorem throwInto_spec (T : Trust handler broken) (hp : s.poison = none) (kind : ErrorKind)
    (e : Error) (hs : s.Becomes a s₁) {P : Bool → Session M BoundFunction (HostState δ) → Prop} :
    (throwInto kind e : Crossing M δ EngineError Bool).wp handler (orThrown s a broken P) s₁ := by
  unfold throwInto isPoisoned
  rw [wp_bind, wp_read]
  dsimp only
  rw [hs.poison, hp]
  refine wp_then (pushError_spec T hs kind e.message) ?_
  rintro _ s₂ ⟨v, h₂⟩
  exact ⟨rfl, v, h₂⟩

/-- A call into the host returns with the stack in order, throws,
or panics where that is let through. -/
theorem invoke_spec_of_tolerated (T : Trust handler broken) {functions : HostFunctions δ}
    (hf : functions.NeverPanic ∨ LetsPanic broken) (bound : BoundFunction) (hp : s.poison = none)
    (ha : 0 < s.slots.size) :
    (invoke functions bound : Crossing M δ EngineError Bool).wp handler
      (orThrown s s.slots broken fun _ => s.Extends s.slots) s := by
  unfold invoke
  refine wp_then (depth_spec (.refl s)) ?_
  rintro _ s₀ ⟨rfl, hs⟩
  refine wp_then (readArguments_spec T hp bound.marshaller _ 1 (by omega) hs) ?_
  intro args s₁ h₁
  cases args with
  | error e => exact throwInto_spec T hp _ e h₁
  | ok args =>
    dsimp only
    rw [wp_bind, wp_read]
    dsimp only
    have hrun := hf.imp_left fun h => h bound.function args s₁.world.host
    refine wp_then (carryOut_spec T hp bound.marshaller ha hrun h₁) ?_
    intro result s₂ h₂
    cases result with
    | returned v =>
      dsimp only
      rw [wp_bind, wp_attempt]
      refine wp_mono (bound.marshaller.push_spec T hp v h₂) ?_ ?_ fun _ _ h => h
      · rintro _ s₃ ⟨u, h₃⟩
        exact extends_of_push (extends_of_becomes h₃)
      · rintro e s₃ ⟨-, h₃⟩
        exact throwInto_spec T hp _ e h₃
    | failed failure =>
      dsimp only
      split
      · exact throwInto_spec T hp _ _ h₂
      · refine wp_then (pushError_spec T h₂ _ _) ?_
        rintro _ s₃ ⟨v, h₃⟩
        exact ⟨rfl, v, h₃⟩

/-- **A call into the host** returns with the stack in order, or throws. -/
theorem invoke_spec (T : Trust handler broken) {functions : HostFunctions δ}
    (hf : functions.NeverPanic) (bound : BoundFunction) (hp : s.poison = none)
    (ha : 0 < s.slots.size) :
    (invoke functions bound : Crossing M δ EngineError Bool).wp handler
      (orThrown s s.slots broken fun _ => s.Extends s.slots) s :=
  invoke_spec_of_tolerated T (.inl hf) bound hp ha

end Crossing

/-! ## Nested calls -/

/-- **Calls nested to any depth** can be relied on. -/
theorem keeps_nestedHandler {broken : Payload → World M BoundFunction (HostState δ) → Prop}
    (hM : M.KeepsArrays) (hc : M.NeverCrashes ∨ LetsPanic broken) {functions : HostFunctions δ}
    (hf : functions.NeverPanic ∨ LetsPanic broken) (depth : Nat) :
    (nestedHandler (invoke functions) depth :
      Handler M BoundFunction (HostState δ)).Keeps broken := by
  induction depth with
  | zero => exact fun _ _ _ _ => trivial
  | succ depth ih =>
    intro bound this args w
    let entry : Session M BoundFunction (HostState δ) := ⟨w, (this :: args).toArray, none⟩
    have hcall := invoke_spec_of_tolerated (s := entry) (Machine.trust_of_keeps hM hc ih) hf bound
      rfl (by simp [entry])
    show (NativeResult.ofOutcome
      (invoke functions bound (nestedHandler (invoke functions) depth) entry)).Keeps
      w.machine broken
    unfold wp at hcall
    cases ho : invoke functions bound (nestedHandler (invoke functions) depth) entry with
    | ok returnsTop s' =>
      rw [ho] at hcall
      obtain ⟨more, hm⟩ := hcall
      have hpoison : s'.poison = none := hm.poison
      simp only [NativeResult.ofOutcome, hpoison]
      exact hm.later
    | error e s' =>
      rw [ho] at hcall
      obtain ⟨rfl, v, hv⟩ := hcall
      have hpoison : s'.poison = none := hv.poison
      simp only [NativeResult.ofOutcome, hpoison]
      exact hv.later
    | panicked payload w' =>
      rw [ho] at hcall
      exact hcall
    | exhausted => trivial

theorem trust_nestedHandler (hM : M.KeepsArrays) (hc : M.NeverCrashes)
    {functions : HostFunctions δ} (hf : functions.NeverPanic) (depth : Nat) :
    Trust (nestedHandler (invoke functions) depth : Handler M BoundFunction (HostState δ)) never :=
  Machine.trust hM hc (keeps_nestedHandler hM (.inl hc) (.inl hf) depth)

theorem trust_nestedHandler_always (hM : M.KeepsArrays) (functions : HostFunctions δ)
    (depth : Nat) :
    Trust (nestedHandler (invoke functions) depth : Handler M BoundFunction (HostState δ)) always :=
  have halways : LetsPanic (always (M := M) (δ := δ)) := fun _ _ => trivial
  Machine.trust_of_keeps hM (.inr halways)
  (keeps_nestedHandler hM (.inr halways) (.inr halways) depth)

end ScriptHost
