import ScriptHost.Stack.Primitive
import ScriptHost.Value.SentinelSource

/-!
# Host functions and the host's state

A host function is known to the library by its identity; what it does is given by an interpretation,
`HostFunctions`, which sends an identity and the converted arguments to a `HostRun`.  Such a run may
ask for the receiver, any number of times, before it returns, fails or panics.
-/

namespace ScriptHost

/-- Why a host function failed, and the contexts put around it, the outermost first.  Each is an
error of this library or the text of anything else. -/
structure HostFailure where
  contexts : List (Error ⊕ String)
  root : Error ⊕ String

namespace HostFailure

/-- The contexts and the innermost failure, from the outside in. -/
def chain (failure : HostFailure) : List (Error ⊕ String) := failure.contexts ++ [failure.root]

/-- The error of this library that a failure counts as, the outermost one if there are several. -/
def error? (failure : HostFailure) : Option Error := failure.chain.findSome? Sum.getLeft?

/-- All texts, from the outside in. -/
def text (failure : HostFailure) : String :=
  ": ".intercalate (failure.chain.map (Sum.elim Error.text id))

end HostFailure

/-- The run of a host function over the host's state `ω`. -/
inductive HostRun (ω : Type) : Type
  | returned (value : HostValue) (host : ω)
  | failed (failure : HostFailure) (host : ω)
  | panicked (payload : Payload) (host : ω)
  /-- Asks for the receiver, converted, and goes on with the answer. -/
  | askThis (host : ω) (next : Except Error HostValue → ω → HostRun ω)

/-- What is shared by all contexts: the source of sentinels and the host's own state. -/
structure HostState (δ : Type) where
  sentinels : SentinelSource
  own : δ

/-- What the host functions do. -/
abbrev HostFunctions (δ : Type) :=
  CallableId → List HostValue → HostState δ → HostRun (HostState δ)

/-- The bounds and the override that a conversion follows. -/
structure Marshaller where
  complex : Option HostValue
  maxDepth : Nat
  maxElements : Nat

/-- A host function as the script machine holds it: with the rules for its arguments and results. -/
structure BoundFunction where
  function : CallableId
  marshaller : Marshaller

/-- The programs of the crossing, on a machine `M` and a host with the state `δ`. -/
abbrev Crossing (M : Machine) (δ ε α : Type) := Stacked M BoundFunction (HostState δ) ε α

end ScriptHost
