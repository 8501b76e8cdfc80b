import ScriptHost.Stack.Session

/-!
# Host functions under a running script

A host function runs on a stack of its own, which at first holds the receiver and the arguments.
What it leaves there is thrown away, except the top slot, which it may return or throw.  A stack
that it poisoned, and a failure for good, end the whole run by a panic.

* `NativeResult.ofOutcome`: what the caller of the function sees;
* `runNative`: one call;
* `nestedHandler`: calls nested to a given depth.
-/

namespace ScriptHost

variable {M : Machine} {κ ω : Type}

/-- The top value of a stack that is being left, the missing value if it is empty. -/
def topOrUndefined (s : Session M κ ω) : ScriptValue := s.slots.back?.getD .undefined

/-- What the caller of a host function sees of its end.  On success the function says whether its
top slot is the result. -/
def NativeResult.ofOutcome : Outcome M κ ω EngineError Bool → NativeResult M κ ω
  | .ok returnsTop s =>
    match s.poison with
    | some reason => .panicked (.abort reason) s.world
    | none => .ended (.ok (if returnsTop then topOrUndefined s else .undefined)) s.world
  | .error e s =>
    match s.poison, e with
    | some reason, _ => .panicked (.abort reason) s.world
    | none, .fatal reason => .panicked (.abort reason) s.world
    | none, .thrown => .ended (.error (topOrUndefined s)) s.world
  | .panicked payload w => .panicked payload w
  | .exhausted => .exhausted

/-- Runs the host function `f` on a new stack. -/
def runNative (body : κ → Stacked M κ ω EngineError Bool) (handler : Handler M κ ω) :
    Handler M κ ω := fun f this args w =>
  .ofOutcome (body f handler ⟨w, (this :: args).toArray, none⟩)

/-- Answers calls of host functions that are nested at most `depth` deep. -/
def nestedHandler (body : κ → Stacked M κ ω EngineError Bool) : (depth : Nat) → Handler M κ ω
  | 0, _, _, _, _ => .exhausted
  | depth + 1, f, this, args, w => runNative body (nestedHandler body depth) f this args w

end ScriptHost
