import ScriptHost.Proofs.Crossing.Read
import ScriptHost.Proofs.Crossing.Write
import ScriptHost.Proofs.Machine.Silent

/-!
# There and back

A host value that has been written to a machine that stores data is read back as what it settles to,
unless it has too many elements, and nothing else can go wrong (`Marshaller.round_trip`).
-/

namespace ScriptHost

open Stacked Crossing HostValue

variable {M : Machine} {δ : Type} {s s₁ : Session M BoundFunction (HostState δ)} {m : Marshaller}
  {v : HostValue}

namespace Marshaller

/-- An image on top is read as what the value settles to, or found too large. -/
theorem pop_ends_of_pushes (handler : Handler M BoundFunction (HostState δ)) (D : DataStore M)
    (h : Pushes D.toDataView v s s₁) (hdepth : v.depth ≤ m.maxDepth) :
    (m.pop : Crossing M δ Error HostValue).ends handler
      (fun w s₂ => s₂.slots = s.slots ∧ v.elementCount ≤ m.maxElements ∧
        Alike (settled (m.standInFor s.world.host) v) w)
      (fun e s₂ => s₂.slots = s.slots ∧ m.maxElements < v.elementCount ∧
        e = .typeError s!"value has more than {m.maxElements} elements") s₁ := by
  obtain ⟨x, hw, ⟨t, hadded, hmirrors⟩, -⟩ := h
  have ht : Unfolds (D.heap s₁.world.machine) x t :=
    hadded.mono fun _ _ ho => (D.since_eq_some_iff.mp ho).2
  refine ends_mono (pop_ends handler (D.shows hw.grows.tame) ht.allData hw.slots hw.poison) ?_ ?_
  · rintro w s₂ ⟨hs₂, t', ht', hadmits, rfl⟩
    obtain rfl := ht.unique ht'
    rw [hw.host]
    exact ⟨hs₂.slots, hmirrors.elements ▸ hadmits.elements, hmirrors.alike _⟩
  · rintro e s₂ ⟨hs₂, hblames⟩
    -- The depth is within its bound and the text is paired, so it is the elements.
    cases hblames with
    | deep h =>
      have := h t ht
      have := hmirrors.depth
      omega
    | many h => exact ⟨hs₂.slots, hmirrors.elements ▸ h t ht, rfl⟩
    | unpaired h => exact (h t ht hmirrors.paired).elim

/-- **There and back.**  On a machine that stores data a value is pushed exactly if it has a script
form and is not too deep.  Once it has been pushed, it is popped as what it settles to if it has no
more elements than allowed, and for a value of plain data that equals what was pushed; otherwise
popping it fails with the error that says so.  In both cases the stack is as it was. -/
theorem round_trip (handler : Handler M BoundFunction (HostState δ)) (D : DataStore M)
    (ht : D.tame s.world.machine) (hp : s.poison = none) :
    ((∃ s₁, (m.push v) handler s = .ok () s₁) ↔ v.Portable ∧ v.depth ≤ m.maxDepth) ∧
    ∀ s₁, (m.push v) handler s = .ok () s₁ → ∃ s₂, s₂.slots = s.slots ∧
      if v.elementCount ≤ m.maxElements then
        ∃ w, (m.pop : Crossing M δ Error HostValue) handler s₁ = .ok w s₂ ∧
          Alike (settled (m.standInFor s.world.host) v) w ∧ (v.Plain → (w == v) = true)
      else
        (m.pop : Crossing M δ Error HostValue) handler s₁ =
          .error (.typeError s!"value has more than {m.maxElements} elements") s₂ := by
  obtain ⟨hiff, hpushes⟩ :=
    run_of_succeedsIff (push_succeedsIff (m := m) (D := D) handler v hp ht)
  refine ⟨⟨fun ⟨s₁, h⟩ => hiff.mp ⟨(), s₁, h⟩, fun h => ?_⟩, fun s₁ hpush => ?_⟩
  · obtain ⟨_, s₁, h⟩ := hiff.mpr h
    exact ⟨s₁, h⟩
  have hdepth := (hiff.mp ⟨(), s₁, hpush⟩).2
  rcases outcome_of_ends (pop_ends_of_pushes handler D (hpushes () s₁ hpush) hdepth) with
    ⟨w, s₂, hpop, hslots, hle, halike⟩ | ⟨e, s₂, hpop, hslots, hlt, rfl⟩
  · refine ⟨s₂, hslots, ?_⟩
    rw [if_pos hle]
    refine ⟨w, hpop, halike, fun hplain => ?_⟩
    rw [settled_of_plain _ hplain] at halike
    exact equal_of_alike halike hplain
  · refine ⟨s₂, hslots, ?_⟩
    rw [if_neg (Nat.not_le_of_lt hlt)]
    exact hpop

/-- A map with a repeated key, a function in an array and one under a key of its own. -/
def sampleMap : HostValue :=
  .map [(.string "k", .boolean true), (.string "k", .array [.null, .callable ⟨7⟩]),
    (.string "f", .callable ⟨8⟩)]

/-- The last entry of each key is left, with a sentinel for the function in the array; with one
element less allowed, the map is found too large. -/
theorem round_trip_silent :
    let s : Session Machine.silent BoundFunction (HostState Unit) :=
      ⟨⟨Machine.silent.fresh, #[], ⟨.fresh, ()⟩⟩, #[], none⟩
    let handler : Handler Machine.silent BoundFunction (HostState Unit) := fun _ _ _ _ => .exhausted
    (∃ s₁ w s₂, (push ⟨none, 2, 4⟩ sampleMap) handler s = .ok () s₁ ∧
      (pop ⟨none, 2, 4⟩) handler s₁ = .ok w s₂ ∧ s₂.slots = #[] ∧
      Alike (.map [(.string "k", .array [.null, .complexObject ⟨1⟩])]) w) ∧
    ∃ s₁ s₂, (push ⟨none, 2, 3⟩ sampleMap) handler s = .ok () s₁ ∧
      (pop ⟨none, 2, 3⟩) handler s₁ = .error (.typeError "value has more than 3 elements") s₂ ∧
      s₂.slots = #[] := by
  intro s handler
  have ht : Machine.silentStore.tame s.world.machine :=
    Machine.tame_of_forall (List.forall_mem_singleton.mpr List.nodup_nil)
  have hportable : sampleMap.Portable := by
    simp [sampleMap, Portable, PortableEntries, AllPortable, Script.indexLimit]
  have hdepth : sampleMap.depth ≤ 2 := by decide
  constructor
  · obtain ⟨hpush, hpop⟩ := round_trip (m := ⟨none, 2, 4⟩) handler Machine.silentStore ht rfl
    obtain ⟨s₁, hs₁⟩ := hpush.mpr ⟨hportable, hdepth⟩
    obtain ⟨s₂, hslots, hend⟩ := hpop s₁ hs₁
    rw [if_pos (by decide)] at hend
    obtain ⟨w, hw, halike, -⟩ := hend
    exact ⟨s₁, w, s₂, hs₁, hw, hslots, halike⟩
  · obtain ⟨hpush, hpop⟩ := round_trip (m := ⟨none, 2, 3⟩) handler Machine.silentStore ht rfl
    obtain ⟨s₁, hs₁⟩ := hpush.mpr ⟨hportable, hdepth⟩
    obtain ⟨s₂, hslots, hend⟩ := hpop s₁ hs₁
    rw [if_neg (by decide)] at hend
    exact ⟨s₁, s₂, hs₁, hend, hslots⟩

end Marshaller

end ScriptHost
