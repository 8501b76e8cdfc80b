import ScriptHost.Proofs.Stack.Logged
import ScriptHost.Value.SentinelSource

/-!
# One source for many threads

A source of sentinels is shared by threads, and each of them takes from it or resets it whenever it
likes.  The source is locked meanwhile, so what happens is a sequence of turns; any order of turns
can come about, and whatever made a thread take its turn plays no part.

Two sentinels are the same exactly if the source was not reset between the turns in which they were
handed out.  Nothing else is compared of what threads hold, so it does not matter how long a
sentinel has been kept, nor whether it was built for the thread that holds it.

* `Turn`, and `SentinelSource.Turns`: what a turn hands out and leaves behind;
* `current_of_runs`, `passed_of_resets`: what holds of the source while nobody resets it, and after
  somebody has;
* `same_iff`, `newer_of_built`: **when two sentinels are the same**,
  and which one is of the later generation.
-/

namespace ScriptHost

/-- What one of the threads `ι` does to the shared source, all at once. -/
inductive Turn (ι : Type)
  /-- It was handed this sentinel, which was built for it or was there already. -/
  | took (thread : ι) (sentinel : Sentinel) (built : Bool)
  | reset (thread : ι)
  deriving DecidableEq

namespace Turn

variable {ι : Type}

/-- The source is reset in one of the turns. -/
def Resets (turns : List (Turn ι)) : Prop := ∃ thread, reset thread ∈ turns

end Turn

namespace SentinelSource

variable {ι : Type}

/-- The source before a turn and after it. -/
inductive Turns : SentinelSource → Turn ι → SentinelSource → Prop
  | took (thread : ι) (source : SentinelSource) :
    Turns source (.took thread source.take.1 source.current.isNone) source.take.2
  | reset (thread : ι) (source : SentinelSource) : Turns source (.reset thread) source.reset

variable {source source' : SentinelSource} {one : Turn ι} {turns : List (Turn ι)}

/-! ## One turn -/

/-- The current sentinel is of a generation that has been built. -/
def Sane (source : SentinelSource) : Prop :=
  ∀ sentinel, source.current = some sentinel → sentinel.generation ≤ source.built

/-- All that is handed out from now on is of a generation after this one. -/
structure Passed (generation : Nat) (source : SentinelSource) : Prop where
  built : generation ≤ source.built
  current : ∀ sentinel, source.current = some sentinel → generation < sentinel.generation

theorem sane_fresh : Sane fresh := nofun

theorem take_of_some {sentinel : Sentinel} (h : source.current = some sentinel) :
    source.take = (sentinel, source) := by
  unfold take
  rw [h]

theorem take_of_none (h : source.current = none) :
    source.take = (⟨source.built + 1⟩, ⟨some ⟨source.built + 1⟩, source.built + 1⟩) := by
  unfold take
  rw [h]

theorem current_take (source : SentinelSource) : source.take.2.current = some source.take.1 := by
  cases h : source.current with
  | none => rw [take_of_none h]
  | some sentinel => rw [take_of_some h, h]

theorem Sane.next (h : Turns source one source') (hs : source.Sane) : source'.Sane := by
  cases h with
  | took =>
    cases hc : source.current with
    | none =>
      rw [take_of_none hc]
      rintro _ ⟨rfl⟩
      exact Nat.le_refl _
    | some sentinel => rwa [take_of_some hc]
  | reset => exact nofun

theorem Passed.next {generation : Nat} (h : Turns source one source')
    (hp : source.Passed generation) : source'.Passed generation := by
  have := hp.built
  cases h with
  | took =>
    cases hc : source.current with
    | none =>
      rw [take_of_none hc]
      refine ⟨by simp only; omega, ?_⟩
      rintro _ ⟨rfl⟩
      simp only
      omega
    | some sentinel => rwa [take_of_some hc]
  | reset => exact ⟨hp.built, nofun⟩

/-- What is handed out by a source that is past a generation. -/
theorem Passed.lt_of_took {generation : Nat} (hp : source.Passed generation) :
    generation < source.take.1.generation := by
  have := hp.built
  cases hc : source.current with
  | none =>
    rw [take_of_none hc]
    simp only
    omega
  | some sentinel =>
    rw [take_of_some hc]
    exact hp.current sentinel hc

theorem passed_reset {generation : Nat} (h : generation ≤ source.built) :
    source.reset.Passed generation := ⟨h, nofun⟩

theorem Sane.le_built (hs : source.Sane) : source.take.1.generation ≤ source.take.2.built := by
  cases hc : source.current with
  | none => exact Nat.le_of_eq (by rw [take_of_none hc])
  | some sentinel =>
    rw [take_of_some hc]
    exact hs sentinel hc

theorem built_le_of_turn (h : Turns source one source') : source.built ≤ source'.built := by
  cases h with
  | took =>
    cases hc : source.current with
    | none =>
      rw [take_of_none hc]
      exact Nat.le_succ _
    | some sentinel => exact Nat.le_of_eq (by rw [take_of_some hc])
  | reset => exact Nat.le_refl _

/-! ## Many turns -/

theorem Sane.runs (h : Runs Turns source turns source') (hs : source.Sane) : source'.Sane := by
  induction h with
  | nil => exact hs
  | cons first _ ih => exact ih (hs.next first)

theorem Passed.runs {generation : Nat} (h : Runs Turns source turns source')
    (hp : source.Passed generation) : source'.Passed generation := by
  induction h with
  | nil => exact hp
  | cons first _ ih => exact ih (hp.next first)

theorem built_le_of_runs (h : Runs Turns source turns source') : source.built ≤ source'.built := by
  induction h with
  | nil => exact Nat.le_refl _
  | cons first _ ih => exact Nat.le_trans (built_le_of_turn first) ih

/-- As long as nobody resets the source, its current sentinel stays. -/
theorem current_of_runs {sentinel : Sentinel} (h : Runs Turns source turns source')
    (hc : source.current = some sentinel) (hreset : ¬ Turn.Resets turns) :
    source'.current = some sentinel := by
  induction h with
  | nil => exact hc
  | cons first _ ih =>
    cases first with
    | took thread =>
      refine ih ?_ fun ⟨thread, h⟩ => hreset ⟨thread, List.mem_cons_of_mem _ h⟩
      rw [take_of_some hc, hc]
    | reset thread => exact absurd ⟨thread, List.mem_cons_self⟩ hreset

/-- Once somebody has reset the source, all generations before are behind it. -/
theorem passed_of_resets {generation : Nat} (h : Runs Turns source turns source')
    (hb : generation ≤ source.built) (hreset : Turn.Resets turns) : source'.Passed generation := by
  obtain ⟨thread, hmem⟩ := hreset
  obtain ⟨before, after, rfl⟩ := List.append_of_mem hmem
  obtain ⟨source₁, hbefore, hrest⟩ := h.exists_of_append
  obtain _ | ⟨first, hafter⟩ := hrest
  cases first
  exact (passed_reset (Nat.le_trans hb (built_le_of_runs hbefore))).runs hafter

/-! ## Two sentinels -/

variable {before between after : List (Turn ι)} {t u : ι} {a b : Sentinel} {x y : Bool}

/-- The source when the first of two sentinels had been handed out,
and before the second one was. -/
theorem exists_between
    (h : Runs Turns fresh (before ++ .took t a x :: (between ++ .took u b y :: after)) source) :
    ∃ source₁ source₂, a.generation ≤ source₁.built ∧ source₁.current = some a ∧
      Runs Turns source₁ between source₂ ∧ b = source₂.take.1 ∧ y = source₂.current.isNone := by
  obtain ⟨source₀, hbefore, h₀⟩ := h.exists_of_append
  obtain _ | ⟨first, h₁⟩ := h₀
  obtain ⟨source₂, hbetween, h₂⟩ := h₁.exists_of_append
  obtain _ | ⟨second, -⟩ := h₂
  have hbuilt := (Sane.runs hbefore sane_fresh).le_built
  cases first
  cases second
  exact ⟨_, source₂, hbuilt, current_take source₀, hbetween, rfl, rfl⟩

/-- **Two sentinels are the same exactly if nobody reset the source in between.** -/
theorem same_iff
    (h : Runs Turns fresh (before ++ .took t a x :: (between ++ .took u b y :: after)) source) :
    a = b ↔ ¬ Turn.Resets between := by
  obtain ⟨source₁, source₂, hbuilt, hcurrent, hbetween, rfl, -⟩ := exists_between h
  constructor
  · intro hab hreset
    have hlt := (passed_of_resets hbetween hbuilt hreset).lt_of_took
    rw [← hab] at hlt
    exact Nat.lt_irrefl _ hlt
  · intro hreset
    rw [take_of_some (current_of_runs hbetween hcurrent hreset)]

/-- **A sentinel that is built is of a later generation** than all that were handed out before. -/
theorem newer_of_built
    (h : Runs Turns fresh (before ++ .took t a x :: (between ++ .took u b true :: after)) source) :
    a.generation < b.generation := by
  obtain ⟨source₁, source₂, hbuilt, -, hbetween, rfl, hnone⟩ := exists_between h
  rw [take_of_none (Option.isNone_iff_eq_none.mp hnone.symm)]
  exact Nat.lt_succ_of_le (Nat.le_trans hbuilt (built_le_of_runs hbetween))

end SentinelSource

end ScriptHost
