import ScriptHost.Proofs.Stack.Look
import ScriptHost.Proofs.Stack.Nesting

/-!
# Failures that nobody catches

If a run of the machine fails, so does the primitive that it was the run of, with the thrown value
on top of the stack, and so does the program around it, as far as that is one step after the other.

* `Stacked.RunsInto`: a step of a program, with the session before it, and `RunsInto.eq_error`: its
  failure is the failure of the program;
* `perform_of_traced`: a thrown error object, with its trace.
-/

namespace ScriptHost

variable {M : Machine} {κ ω ε α β γ : Type}

/-- The program comes to the step `y`, in the session `t`, and whatever it does afterwards it does
only if the step succeeds. -/
inductive Stacked.RunsInto (handler : Handler M κ ω) (y : Stacked M κ ω ε β) (t : Session M κ ω) :
    {α : Type} → Stacked M κ ω ε α → Session M κ ω → Prop
  | here : RunsInto handler y t y t
  | first {α γ : Type} {x : Stacked M κ ω ε α} {f : α → Stacked M κ ω ε γ} {s : Session M κ ω}
      (h : RunsInto handler y t x s) : RunsInto handler y t (x >>= f) s
  | second {α γ : Type} {x : Stacked M κ ω ε α} {f : α → Stacked M κ ω ε γ} {a : α}
      {s s' : Session M κ ω} (hx : x handler s = .ok a s') (h : RunsInto handler y t (f a) s') :
      RunsInto handler y t (x >>= f) s

theorem Stacked.RunsInto.eq_error {handler : Handler M κ ω} {x : Stacked M κ ω ε α}
    {y : Stacked M κ ω ε β} {s t t' : Session M κ ω} {e : ε} (h : RunsInto handler y t x s)
    (hy : y handler t = .error e t') : x handler s = .error e t' := by
  induction h with
  | here => exact hy
  | first _ ih => exact bind_eq_of_error ih
  | second hx _ ih => exact (bind_eq_of_ok hx).trans ih

namespace Stack

open Stacked

/-- An error object that leaves the machine goes on top, with the trace of the failure. -/
theorem perform_of_traced {handler : Handler M κ ω} {s : Session M κ ω}
    {f : M.State → Act M.State α} {failure : Failure} {ref : Ref} {w w' : World M κ ω}
    (h : (f s.world.machine).drive handler s.world = .ended (.error failure) w)
    (hcause : failure.cause = .value (.object ref)) (herror : M.isError w.machine ref = true)
    (htraced : Traced handler failure ref w w') :
    perform f handler s = .error .thrown ⟨w', s.slots.push (.object ref), s.poison⟩ := by
  have hthrown : thrownIn failure w = (.object ref, w) := by rw [thrownIn, hcause]
  unfold perform
  rw [bind_eq_of_ok (act_of_ended h)]
  show raise failure handler { s with world := w } = _
  rw [raise_eq, bind_eq_of_ok (thrownValue_eq failure)]
  simp only [hthrown]
  exact throwTraced_of_traced herror htraced

end Stack

end ScriptHost
