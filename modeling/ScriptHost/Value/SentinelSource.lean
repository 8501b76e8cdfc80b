import ScriptHost.Value.Basic

/-!
# The source of sentinels

At any time there is at most one current sentinel.  It is built when it is first asked for, and a
reset forgets it, so that the next request builds one of a later generation.
-/

namespace ScriptHost

/-- The current sentinel, and the generation of the last one built. -/
structure SentinelSource where
  current : Option Sentinel
  built : Nat
  deriving DecidableEq, Repr

namespace SentinelSource

/-- Nothing built yet. -/
def fresh : SentinelSource := ⟨none, 0⟩

/-- The current sentinel, built if there is none. -/
def take (source : SentinelSource) : Sentinel × SentinelSource :=
  match source.current with
  | some sentinel => (sentinel, source)
  | none =>
    let sentinel : Sentinel := ⟨source.built + 1⟩
    (sentinel, ⟨some sentinel, source.built + 1⟩)

/-- Forgets the current sentinel. -/
def reset (source : SentinelSource) : SentinelSource := { source with current := none }

/-- A step on a shared source; steps of several threads follow one another in some order. -/
inductive Step
  | take
  | reset
  deriving DecidableEq, Repr

/-- What each step of a schedule hands out, and the source after it. -/
def run : SentinelSource → List Step → List (Option Sentinel) × SentinelSource
  | source, [] => ([], source)
  | source, .take :: rest =>
    let (sentinel, next) := source.take
    let (others, final) := next.run rest
    (some sentinel :: others, final)
  | source, .reset :: rest =>
    let (others, final) := source.reset.run rest
    (none :: others, final)

end SentinelSource

end ScriptHost
