import ScriptHost.Crossing.Thrown
import ScriptHost.Proofs.Stack.Total

/-!
# Primitives with their failures classified

`Crossing.check` adds nothing to a primitive that succeeds (`check_ends`), and whatever becomes of a
failure is one again (`check_succeedsIff`).
-/

namespace ScriptHost.Crossing

open Stacked

variable {M : Machine} {δ α : Type} {handler : Handler M BoundFunction (HostState δ)}
  {s : Session M BoundFunction (HostState δ)} {x : Crossing M δ EngineError α}
  {ok : α → Session M BoundFunction (HostState δ) → Prop}

theorem check_ends {error : Error → Session M BoundFunction (HostState δ) → Prop}
    (hx : x.ends handler ok (fun _ _ => False) s) : (check x).ends handler ok error s := by
  unfold check
  rw [ends_bind, ends_attempt]
  exact ends_mono hx (fun _ _ h => h) fun _ _ h => h.elim

theorem fails_poison (reason : String) :
    (Stack.poison reason : Crossing M δ EngineError α).Fails := by
  intro handler s a s' h
  cases h

theorem fails_classify (e : EngineError) : (classify e : Crossing M δ Error α).Fails := by
  cases e with
  | fatal reason => exact fails_fail _
  | thrown =>
    refine fails_bind fun n => ?_
    cases n with
    | zero => exact fails_mapError _ (fails_poison _)
    | succ top => exact fails_bind fun e => fails_bind fun _ => fails_fail e

theorem check_succeedsIff {accepted : Prop} (hx : x.succeedsIff handler accepted ok s) :
    (check x).succeedsIff handler accepted ok s :=
  succeedsIff_attempt hx (fun _ _ h => h) fails_classify

end ScriptHost.Crossing
