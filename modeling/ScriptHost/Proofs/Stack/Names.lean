import Mathlib.Data.List.Nodup
import ScriptHost.Proofs.Machine.Silent
import ScriptHost.Proofs.Stack.Data

/-!
# Names of properties

The machine names properties by units, the stack by engine text.  Nothing is lost between the two,
so a name that was listed can be handed back.

* `Sifted`: which of the names that the machine lists are kept, and `ownKeys_eq_ok`: what a list of
  keys has come from;
* `getNamed`: a look-up by units, and `getProp_encodeUnits`: **the look-up by key is the same**;
* `names_survive`: both together, with the text of the names.
-/

namespace ScriptHost

open Stacked

theorem Text.encodeUnits_injective : Function.Injective encodeUnits :=
  Function.LeftInverse.injective decodeUnits_encodeUnits

namespace Stack

variable {M : Machine} {κ ω α : Type} {handler : Handler M κ ω} {s s' : Session M κ ω}

/-- An operation of the machine that answers has been carried out, and nothing else has changed. -/
theorem perform_eq_ok {f : M.State → Act M.State α} {a : α} (h : perform f handler s = .ok a s') :
    ∃ w, (f s.world.machine).drive handler s.world = .ended (.ok a) w ∧
      s' = { s with world := w } := by
  obtain ⟨result, s₁, hact, hrest⟩ := exists_of_bind_eq_ok h
  cases result with
  | error failure => exact absurd hrest (fails_raise failure handler s₁ a s')
  | ok b =>
    cases hrest
    unfold act at hact
    cases hd : (f s.world.machine).drive handler s.world with
    | ended result w =>
      rw [hd] at hact
      cases hact
      exact ⟨w, rfl, rfl⟩
    | panicked payload w => rw [hd] at hact; cases hact
    | exhausted => rw [hd] at hact; cases hact

theorem slot_eq_ok {index : Nat} {v : ScriptValue} (h : slot index handler s = .ok v s') :
    s.slots[index]? = some v ∧ s' = s := by
  cases hv : s.slots[index]? with
  | none => simp [slot, Stacked.read, bind_apply, hv, depth, poison] at h
  | some u =>
    simp only [slot, Stacked.read, bind_apply, hv] at h
    cases h
    exact ⟨rfl, rfl⟩

theorem objectAt_eq_ok {index : Nat} {ref : Ref} (h : objectAt index handler s = .ok ref s') :
    s.slots[index]? = some (.object ref) ∧ s' = s := by
  obtain ⟨v, s₁, hslot, hrest⟩ := exists_of_bind_eq_ok h
  obtain ⟨hv, rfl⟩ := slot_eq_ok hslot
  cases v with
  | object r =>
    cases hrest
    exact ⟨hv, rfl⟩
  | _ => cases hrest

/-! ## The names that are kept -/

/-- The object is asked of each name in turn whether that is an enumerable property, and the names
with the answer yes are kept.  Each question may change the world. -/
inductive Sifted (handler : Handler M κ ω) (ref : Ref) :
    World M κ ω → List Units → List Units → World M κ ω → Prop
  | nil (w : World M κ ω) : Sifted handler ref w [] [] w
  | keep {w w₁ w₂ : World M κ ω} {name : Units} {names kept : List Units}
      (h : (M.isEnumerable ref name w.machine).drive handler w = .ended (.ok true) w₁)
      (rest : Sifted handler ref w₁ names kept w₂) :
      Sifted handler ref w (name :: names) (name :: kept) w₂
  | drop {w w₁ w₂ : World M κ ω} {name : Units} {names kept : List Units}
      (h : (M.isEnumerable ref name w.machine).drive handler w = .ended (.ok false) w₁)
      (rest : Sifted handler ref w₁ names kept w₂) :
      Sifted handler ref w (name :: names) kept w₂

theorem Sifted.sublist {ref : Ref} {w w' : World M κ ω} {names kept : List Units}
    (h : Sifted handler ref w names kept w') : kept.Sublist names := by
  induction h with
  | nil => exact .slnil
  | keep _ _ ih => exact ih.cons_cons _
  | drop _ _ ih => exact ih.cons _

theorem enumerableKeys_eq_ok {ref : Ref} {names : List Units} {keys : List (List UInt8)}
    (h : enumerableKeys ref names handler s = .ok keys s') :
    ∃ kept w, Sifted handler ref s.world names kept w ∧ keys = kept.map Text.encodeUnits ∧
      s' = { s with world := w } := by
  induction names generalizing keys s s' with
  | nil =>
    cases h
    exact ⟨[], _, .nil _, rfl, rfl⟩
  | cons name rest ih =>
    obtain ⟨shown, s₁, hshown, h⟩ := exists_of_bind_eq_ok h
    obtain ⟨others, s₂, hothers, h⟩ := exists_of_bind_eq_ok h
    obtain ⟨w₁, hanswer, rfl⟩ := perform_eq_ok hshown
    obtain ⟨kept, w₂, hkept, rfl, rfl⟩ := ih hothers
    cases h
    cases shown with
    | true => exact ⟨name :: kept, w₂, .keep hanswer hkept, rfl, rfl⟩
    | false => exact ⟨kept, w₂, .drop hanswer hkept, rfl, rfl⟩

/-- The keys of an object are the text of names that the machine lists, in its order. -/
theorem ownKeys_eq_ok {index : Nat} {keys : List (List UInt8)}
    (h : ownKeys index handler s = .ok keys s') :
    ∃ ref listed w₁ kept w₂, s.slots[index]? = some (.object ref) ∧
      (M.keys ref s.world.machine).drive handler s.world = .ended (.ok listed) w₁ ∧
      Sifted handler ref w₁ listed kept w₂ ∧ keys = kept.map Text.encodeUnits ∧
      s' = { s with world := w₂ } := by
  obtain ⟨ref, s₁, hobject, hrest⟩ := exists_of_bind_eq_ok h
  obtain ⟨hv, rfl⟩ := objectAt_eq_ok hobject
  obtain ⟨listed, s₂, hlisted, hend⟩ := exists_of_bind_eq_ok hrest
  obtain ⟨w₁, hanswer, rfl⟩ := perform_eq_ok hlisted
  obtain ⟨kept, w₂, hkept, hkeys, hs'⟩ := enumerableKeys_eq_ok hend
  exact ⟨ref, listed, w₁, kept, w₂, hv, hanswer, hkept, hkeys, hs'⟩

/-! ## Looking names up -/

/-- Pushes the property of these units of the value in slot `index`,
and answers whether it exists. -/
def getNamed (index : Nat) (name : Units) : Stacked M κ ω EngineError Bool := do
  let base ← slot index
  let ref ← perform (M.toObject base)
  let found ← perform (M.has ref name)
  let v ← perform (M.get ref name)
  pushValue v
  pure found

/-- **A name that is handed back means what it meant.** -/
theorem getProp_encodeUnits (index : Nat) (name : Units) :
    (getProp index (Text.encodeUnits name) : Stacked M κ ω EngineError Bool) =
      getNamed index name := by
  unfold getProp getNamed
  rw [Text.decodeUnits_encodeUnits]

/-- **Names survive the trip across the stack.**  Units of any kind come back from their engine
text, so different units never have the same.  If the own keys of an object are listed, they are the
text of those names that the machine lists for the object, in this order, of which it answers that
they are enumerable; no two of them are the same if the machine lists no name twice; and a look-up
under such a key, of whatever value and at whatever time, asks the machine for that very name. -/
theorem names_survive (handler : Handler M κ ω) :
    (∀ us, Text.decodeUnits (Text.encodeUnits us) = us) ∧
    Function.Injective Text.encodeUnits ∧
    ∀ {index : Nat} {s s' : Session M κ ω} {keys : List (List UInt8)},
      ownKeys index handler s = .ok keys s' →
      ∃ ref listed w₁ kept w₂, s.slots[index]? = some (.object ref) ∧
        (M.keys ref s.world.machine).drive handler s.world = .ended (.ok listed) w₁ ∧
        Sifted handler ref w₁ listed kept w₂ ∧
        keys = kept.map Text.encodeUnits ∧ (listed.Nodup → keys.Nodup) ∧
        ∀ name ∈ kept, ∀ i, (getProp i (Text.encodeUnits name) : Stacked M κ ω EngineError Bool) =
          getNamed i name := by
  refine ⟨Text.decodeUnits_encodeUnits, Text.encodeUnits_injective, fun {index s s' keys} h => ?_⟩
  obtain ⟨ref, listed, w₁, kept, w₂, hv, hlisted, hkept, rfl, -⟩ := ownKeys_eq_ok h
  refine ⟨ref, listed, w₁, kept, w₂, hv, hlisted, hkept, rfl, fun hnodup => ?_, fun name _ i => ?_⟩
  · exact List.Nodup.map Text.encodeUnits_injective (hnodup.sublist hkept.sublist)
  · exact getProp_encodeUnits i name

/-- A half without a partner, a pair, and the same pair the wrong way round, which is hidden. -/
theorem names_survive_silent :
    let members : List Member := [⟨[0xD83D], .null, true⟩, ⟨[0xD83D, 0xDE00], .boolean true, true⟩,
      ⟨[0xDE00, 0xD83D], .null, false⟩, ⟨[0], .undefined, true⟩]
    let s : Session Machine.silent Unit Unit :=
      ⟨⟨[.plain [], .plain members], #[], ()⟩, #[.object 1], none⟩
    let handler : Handler Machine.silent Unit Unit := fun _ _ _ _ => .exhausted
    let keys : List (List UInt8) := [[0xED, 0xA0, 0xBD], [0xED, 0xA0, 0xBD, 0xED, 0xB8, 0x80], [0]]
    ownKeys 0 handler s = .ok keys s ∧
    ∃ ref listed w₁ kept w₂, s.slots[0]? = some (.object ref) ∧
      (Machine.silent.keys ref s.world.machine).drive handler s.world = .ended (.ok listed) w₁ ∧
      Sifted handler ref w₁ listed kept w₂ ∧
      keys = kept.map Text.encodeUnits ∧ (listed.Nodup → keys.Nodup) ∧
      ∀ name ∈ kept, ∀ i,
        (getProp i (Text.encodeUnits name) : Stacked Machine.silent Unit Unit EngineError Bool) =
          getNamed i name := by
  intro members s handler keys
  have h : ownKeys 0 handler s = .ok keys s := rfl
  exact ⟨h, (names_survive handler).2.2 h⟩

end Stack

end ScriptHost
