import ScriptHost.Proofs.Crossing.Callback
import ScriptHost.Proofs.Machine.Blank

/-!
# Conversions leave the stack in order

A conversion may run any script: getters, traps of proxies, setters that are inherited, and whatever
prints a thrown value.  As long as each call of the machine returns or throws, the conversion itself
comes to an end as well, and it leaves one slot more or one slot less than there was, all others as
they were, at every one of its exits.

* `Marshaller.Leaves`: what is found on the stack at an exit;
* `Marshaller.stack_discipline`: **the slots at every exit of a conversion**.
-/

namespace ScriptHost

open Stack Stacked Crossing

variable {M : Machine} {δ ε α : Type}

namespace Marshaller

/-! ## The slots at every exit -/

/-- The slots are these, and the stack is not poisoned. -/
structure Leaves (slots : Array ScriptValue)
    (s : Session M BoundFunction (HostState δ)) : Prop where
  slots : s.slots = slots
  poison : s.poison = none

variable {handler : Handler M BoundFunction (HostState δ)}
  {s s₁ : Session M BoundFunction (HostState δ)} {a : Array ScriptValue}

theorem leaves_of_becomes (hp : s.poison = none) (h : s.Becomes a s₁) : Leaves a s₁ :=
  ⟨h.slots, h.poison.trans hp⟩

/-- **Conversions leave the stack in order**, whatever script they run, if each call of the machine
returns or throws.  Pushing adds one slot on success and none on failure; converting the top takes
one slot off on success and on failure.  The slots below are as they were,
and the stack is not poisoned. -/
theorem stack_discipline (m : Marshaller) (T : Trust handler never) (hr : M.Returns handler)
    (hp : s.poison = none) :
    (∀ v, (m.push v : Crossing M δ Error Unit).ends handler
      (fun _ s' => ∃ x, Leaves (s.slots.push x) s') (fun _ s' => Leaves s.slots s') s) ∧
    (0 < s.slots.size → (m.pop : Crossing M δ Error HostValue).ends handler
      (fun _ s' => Leaves s.slots.pop s') (fun _ s' => Leaves s.slots.pop s') s) := by
  -- What the slots are at an exit is known already; that an exit is reached is what `halts` adds.
  refine ⟨fun v => ?_, fun hsize => ?_⟩
  · refine ends_mono (ends_of_wp (m.push_spec T hp v (.refl s)) ((m.assembled_push v).halts hr s))
      ?_ ?_
    · rintro _ s₁ ⟨x, h⟩
      exact ⟨x, leaves_of_becomes hp h⟩
    · exact fun e s₁ h => leaves_of_becomes hp h.2
  · obtain ⟨a, x, ha⟩ := Array.exists_push_of_size_pos hsize
    have hs : s.Becomes (a.push x) s := ha ▸ .refl s
    rw [ha, Array.pop_push]
    exact ends_mono (ends_of_wp (m.pop_spec T hp hs) (m.assembled_pop.halts hr s))
      (fun _ _ h => leaves_of_becomes hp h) fun _ _ h => leaves_of_becomes hp h.2

theorem returns_grudging (handler : Handler Machine.grudging BoundFunction (HostState δ)) :
    Machine.grudging.Returns handler := by
  intro α f hf w
  cases hf with
  | toObject v => cases v <;> exact nofun
  | _ => exact nofun

/-- An array that throws at the first element is neither written nor read, and in both cases the
slot below it is all that is left; a text is written and read. -/
theorem stack_discipline_grudging :
    let m : Marshaller := ⟨none, 2, 4⟩
    let handler : Handler Machine.grudging BoundFunction (HostState Unit) :=
      fun _ _ _ _ => .exhausted
    let world : World Machine.grudging BoundFunction (HostState Unit) :=
      ⟨[⟨.plain, none⟩, ⟨.array, none⟩], #[], ⟨.fresh, ()⟩⟩
    (∃ e s', (m.push (.array [.null])) handler ⟨world, #[.null], none⟩ = .error e s' ∧
      Leaves #[.null] s') ∧
    (∃ s', (m.push (.string "x")) handler ⟨world, #[.null], none⟩ = .ok () s' ∧
      ∃ x, Leaves #[.null, x] s') ∧
    (∃ e s', m.pop handler ⟨world, #[.null, .object 1], none⟩ = .error e s' ∧ Leaves #[.null] s') ∧
    ∃ v s', m.pop handler ⟨world, #[.null, .boolean true], none⟩ = .ok v s' ∧
      Leaves #[.null] s' := by
  intro m handler world
  have T : Trust handler never :=
    Machine.trust Machine.keepsArrays_grudging Machine.neverCrashes_grudging fun _ _ _ _ => trivial
  have hr : Machine.grudging.Returns handler := returns_grudging handler
  have hpush := (stack_discipline m T hr (s := ⟨world, #[.null], none⟩) rfl).1
  have hpopArray := (stack_discipline m T hr (s := ⟨world, #[.null, .object 1], none⟩) rfl).2
    (by decide)
  have hpop := (stack_discipline m T hr (s := ⟨world, #[.null, .boolean true], none⟩) rfl).2
    (by decide)
  exact ⟨⟨_, _, rfl, hpush (.array [.null])⟩, ⟨_, rfl, hpush (.string "x")⟩, ⟨_, _, rfl, hpopArray⟩,
    ⟨_, _, rfl, hpop⟩⟩

end Marshaller

end ScriptHost
