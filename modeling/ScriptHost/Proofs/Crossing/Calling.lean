import ScriptHost.Context.Operation
import ScriptHost.Proofs.Crossing.Effect
import ScriptHost.Proofs.Crossing.Thrown
import ScriptHost.Proofs.Stack.Balance

/-!
# Calling from the host

The arguments of a call are converted in order and left above the function and the receiver; then
all of them are taken off and the call is made.  What a conversion that succeeds leaves follows from
the balance of the primitives, so nothing is relied on of the machine.

* `Adds`: so many values are added on success; `adds_push`, `adds_pushArguments`;
* `callWith_of_pushed`: **the call is made with what was put on the stack**.
-/

namespace ScriptHost

open Stack Stacked Crossing

namespace Stacked

variable {M : Machine} {κ ω ε α β : Type}

/-- If the program succeeds, it has left `n` more values on top of the stack, and no poison. -/
def Adds (n : Nat) (x : Stacked M κ ω ε α) : Prop := ∀ handler s, x.wp handler
  ⟨fun _ s' => s'.poison = s.poison ∧ ∃ vs : Array ScriptValue, vs.size = n ∧
    s'.slots = s.slots ++ vs, fun _ _ => True, fun _ _ => True⟩ s

theorem adds_pure (a : α) : (pure a : Stacked M κ ω ε α).Adds 0 :=
  fun _ _ => ⟨rfl, #[], rfl, Array.append_empty.symm⟩

theorem adds_pushValue (v : ScriptValue) : (pushValue v : Stacked M κ ω ε Unit).Adds 1 :=
  fun _ _ => ⟨rfl, #[v], rfl, rfl⟩

theorem adds_fail (e : ε) (n : Nat) : (fail e : Stacked M κ ω ε α).Adds n := fun _ _ => trivial

theorem Adds.bind {m n : Nat} {x : Stacked M κ ω ε α} {f : α → Stacked M κ ω ε β} (hx : x.Adds m)
    (hf : ∀ a, (f a).Adds n) : (x >>= f).Adds (m + n) := by
  intro handler s
  refine wp_then (hx handler s) fun a s₁ ⟨hp₁, vs, hm, hs₁⟩ => ?_
  refine wp_imp (hf a handler s₁) fun _ s₂ ⟨hp₂, us, hn, hs₂⟩ => ?_
  refine ⟨hp₂.trans hp₁, vs ++ us, by simp [hm, hn], ?_⟩
  rw [hs₂, hs₁, Array.append_assoc]

theorem Adds.after {n : Nat} {x : Stacked M κ ω ε α} {f : α → Stacked M κ ω ε β} (hx : x.Adds 0)
    (hf : ∀ a, (f a).Adds n) : (x >>= f).Adds n := by
  simpa using hx.bind hf

end Stacked

namespace Crossing

variable {M : Machine} {δ α β : Type} {handler : Handler M BoundFunction (HostState δ)}
  {s s' : Session M BoundFunction (HostState δ)}

theorem wp_check {x : Crossing M δ EngineError α} {P : α → Session M BoundFunction (HostState δ) →
    Prop} (hx : x.wp handler ⟨P, fun _ _ => True, fun _ _ => True⟩ s) :
    (check x).wp handler ⟨P, fun _ _ => True, fun _ _ => True⟩ s := by
  unfold check
  rw [wp_bind, wp_attempt]
  exact wp_mono hx (fun _ _ h => h) (fun e _ _ => (fails_classify e).wp) fun _ _ _ => trivial

theorem check_bind_of_ok {x : Crossing M δ EngineError α} {f : α → Crossing M δ EngineError β}
    {a : α} (hx : x handler s = .ok a s') : check (x >>= f) handler s = check (f a) handler s' := by
  simp only [check, bind_apply, attempt, hx]

/-- A value that is added and then stored is gone again. -/
theorem adds_store {x : Crossing M δ Error Unit} {p : Crossing M δ EngineError Unit} (hx : x.Adds 1)
    (hp : p.Balanced 1 0) : (x >>= fun _ => check p).Adds 0 := by
  intro handler s
  refine wp_then (hx handler s) fun _ s₁ ⟨hp₁, vs, hvs, hs₁⟩ => ?_
  refine wp_imp (wp_check (P := fun _ s₂ => s₂.poison = s₁.poison ∧ s₂.slots = s.slots) ?_) ?_
  · refine wp_mono (hp handler s₁) (fun _ s₂ ⟨_, hp₂, hsize, us, hs₂⟩ => ?_) (fun _ _ _ => trivial)
      fun _ _ _ => trivial
    have htake : s₁.slots.take (s₁.slots.size - 1) = s.slots := by
      rw [hs₁, Array.size_append, hvs, Nat.add_sub_cancel]
      exact take_append_size s.slots vs
    rw [htake] at hs₂
    have hnone : us = #[] := by
      apply Array.eq_empty_of_size_eq_zero
      have hsum := congrArg Array.size hs₂
      simp only [hs₁, Array.size_append, hvs] at hsize hsum
      omega
    exact ⟨hp₂, by rw [hs₂, hnone, Array.append_empty]⟩
  · exact fun _ s₂ ⟨hp₂, hs₂⟩ => ⟨hp₂.trans hp₁, #[], rfl, by rw [hs₂, Array.append_empty]⟩

end Crossing

/-! ## Arguments -/

namespace Marshaller

variable {M : Machine} {δ : Type} (m : Marshaller)

mutual

theorem adds_pushValue (level : Nat) (v : HostValue) :
    (m.pushValue level v : Crossing M δ Error Unit).Adds 1 := by
  unfold pushValue
  split
  · exact adds_fail _ 1
  · split
    · exact Stacked.adds_pushValue _
    · exact Stacked.adds_pushValue _
    · exact Stacked.adds_pushValue _
    · exact Stacked.adds_pushValue _
    · next items => exact adds_pushed.bind fun array => adds_pushItems level array items
    · next entries => exact adds_pushed.bind fun object => adds_pushEntries level object entries
    · exact fun _ _ => ⟨rfl, #[_], rfl, rfl⟩
    · exact adds_fail _ 1
where
  /-- A new object is one value. -/
  adds_pushed {f : M.State → Ref × M.State} : (do
      let index ← depth
      let ref ← .make f
      Stack.pushValue (.object ref)
      pure index : Crossing M δ Error Nat).Adds 1 := fun _ _ => ⟨rfl, #[_], rfl, rfl⟩

theorem adds_pushItems (level array : Nat) : ∀ items : List HostValue,
    (m.pushItems level array items : Crossing M δ Error Unit).Adds 0
  | [] => adds_pure ()
  | item :: rest => by
    unfold pushItems
    rw [← bind_assoc]
    exact (adds_store (adds_pushValue (level + 1) item) (Fallible.append array).balanced).after
      fun _ => adds_pushItems level array rest

theorem adds_pushEntries (level object : Nat) : ∀ entries : List (HostValue × HostValue),
    (m.pushEntries level object entries : Crossing M δ Error Unit).Adds 0
  | [] => adds_pure ()
  | (key, item) :: rest => by
    unfold pushEntries
    split
    · rw [← bind_assoc]
      exact (adds_store (adds_pushValue (level + 1) item)
        (Fallible.putProp object _).balanced).after fun _ => adds_pushEntries level object rest
    · exact adds_fail _ 0

end

theorem adds_push (v : HostValue) : (m.push v : Crossing M δ Error Unit).Adds 1 := by
  intro handler s
  unfold push depth
  simp only [wp_bind, wp_read, wp_attempt]
  exact wp_mono (m.adds_pushValue 0 v handler s) (fun _ _ h => h) (fun _ _ _ => trivial)
    fun _ _ _ => trivial

end Marshaller

namespace Context

variable {M : Machine} {δ : Type} {m : Marshaller} {handler : Handler M BoundFunction (HostState δ)}
  {s s₁ : Session M BoundFunction (HostState δ)}

theorem adds_pushArguments (m : Marshaller) : ∀ args : List HostValue,
    (pushArguments m args : Crossing M δ Error Unit).Adds args.length
  | [] => adds_pure ()
  | arg :: rest => by
    rw [List.length_cons, Nat.add_comm]
    exact (m.adds_push arg).bind fun _ => adds_pushArguments m rest

/-! ## The call -/

/-- **The call is made with what was put on the stack**: the function and the receiver that were
there, and one value for each argument. -/
theorem callWith_of_pushed {a : Array ScriptValue} {function this : ScriptValue}
    {args : List HostValue} (hs : s.slots = (a.push function).push this)
    (hpush : pushArguments m args handler s = .ok () s₁) :
    ∃ xs : List ScriptValue, xs.length = args.length ∧ s₁.slots = s.slots ++ xs.toArray ∧
      callWith m args handler s =
        (check (callTaken function this xs) >>= fun _ => m.pop) handler { s₁ with slots := a } := by
  obtain ⟨-, vs, hsize, hslots⟩ := ok_of_wp (adds_pushArguments m args handler s) hpush
  have htaken : takeCall args.length handler s₁ = .ok (function, this, vs.toList)
      { s₁ with slots := a } := by
    rw [← hsize]
    exact takeCall_of_append (hs ▸ hslots)
  refine ⟨vs.toList, by simpa using hsize, by simpa using hslots, ?_⟩
  unfold callWith
  rw [bind_eq_of_ok hpush, bind_apply, callMethod_eq, check_bind_of_ok htaken, ← bind_apply]

end Context

end ScriptHost
