import ScriptHost.Proofs.Crossing.Converted
import ScriptHost.Proofs.Script.Data

/-!
# Data that cannot be spoofed

Scripts may change whatever they like around an object: the global object and everything it holds,
the prototypes, members that are not enumerable.  The conversion of data does not depend on it.

* `Marshaller.pop_of_data`: **in all states that show the same data the conversion comes to the
  same**, which is calculated from that data alone, and it makes no request;
* `plainState`, `tamperedState`: one object twice, in good company and in bad.
-/

namespace ScriptHost

open Script

variable {δ : Type}

namespace Marshaller

/-- **Data cannot be spoofed.**  The value reaches nothing but data in `s`, and `t` lets the same
elements and enumerable members be seen of all that is reached.  Then the conversion comes to the
same in both states, whatever else there is in them and whatever functions of the script or of the
host would do if they were called; it leaves the state as it is. -/
theorem pop_of_data (m : Marshaller) {s t : State} {v : ScriptValue} (hv : AllData s.data v)
    (hagree : AgreeFrom s.data t.data v) (host : HostState δ) :
    ∀ state, state = s ∨ state = t → ∀ (driver : Driver)
      (handler : Handler (scriptMachineBy driver) BoundFunction (HostState δ))
      (natives : Array BoundFunction) (a : Array ScriptValue),
      ∃ s' : Session (scriptMachineBy driver) BoundFunction (HostState δ),
        m.pop handler ⟨⟨state, natives, host⟩, a.push v, none⟩ =
          .ofResult (m.converts s.data (m.standInFor host) v) s' ∧
        s'.slots = a ∧ s'.poison = none ∧ s'.world.machine = state := by
  intro state hstate driver handler natives a
  have hsame : AgreeFrom s.data state.data v := by
    rcases hstate with rfl | rfl
    · exact .refl _ v
    · exact hagree
  have hgives := pop_gives handler (m := m) (s := ⟨⟨state, natives, host⟩, a.push v, none⟩)
    (shows_data driver state) (hsame.allData hv) rfl rfl
  rw [m.converts_congr hsame hv] at hgives
  obtain ⟨s', hrun, hs⟩ := hgives.exists
  exact ⟨s', hrun, hs.slots, hs.poison, hs.machine⟩

end Marshaller

/-! ## An object in bad company -/

namespace Script

/-- A driver that calls no function. -/
def Driver.refusing : Driver where
  drive x s :=
    match x s with
    | .done s' r => .done { s' with frames := s.frames } (r.mapError Signal.failure)
    | _ => .exhausted
  drive_done h := by simp only [h]

/-- The object 6 holds an array and something that cannot be seen.  The prototypes, the global
object and what cannot be seen are given. -/
def surrounded (global objectPrototype arrayPrototype : Object) (unseen : ScriptValue) : State where
  heap := ⟨#[
      global, objectPrototype, default, arrayPrototype, default, default,
      { (default : Object) with
        proto := some Intrinsic.objectPrototype.ref
        named := [(.name (Text.units "a"), .plain (.object 7)),
          (.name (Text.units "h"), .hidden unseen)] },
      { (default : Object) with
        proto := some Intrinsic.arrayPrototype.ref
        kind := .array 1 true
        indexed := (∅ : Std.TreeMap Nat Property).insert 0 (.plain (.boolean true)) },
      { (default : Object) with kind := .function ⟨.native ⟨0⟩, "spoof", false⟩ }]⟩
  scopes := #[]
  symbols := #[]
  registered := []
  frames := []
  converting := []

/-- Everything is in order. -/
def plainState : State :=
  surrounded default default { (default : Object) with kind := .array 0 true } .null

/-- There are accessors on both prototypes, one of them for the first index of arrays; the global
object is not what it was, nor is what cannot be seen. -/
def tamperedState : State :=
  let spoof : Property := ⟨.accessor (some 8) (some 8), true, true⟩
  surrounded
    { (default : Object) with named := [(.name (Text.units "Object"), .plain (.number 5))] }
    { (default : Object) with
      named := [(.name (Text.units "a"), spoof), (.name (Text.units "z"), spoof),
        (.name (Text.units "propertyIsEnumerable"), .plain (.object 8))] }
    { (default : Object) with
      kind := .array 1 true
      indexed := (∅ : Std.TreeMap Nat Property).insert 0 spoof }
    (.object 8)

/-- Object, array and element: nothing else is reached from the object. -/
def Held (v : ScriptValue) : Prop := v = .object 6 ∨ v = .object 7 ∨ v = .boolean true ∨ v = .null

theorem held_closed (ref : Ref) (h : Held (.object ref)) :
    ∃ o, plainState.data ref = some o ∧ ∀ w ∈ o.values, Held w := by
  rcases h with h | h | h | h <;> cases h
  · exact ⟨.plain [⟨Text.units "a", .object 7, true⟩, ⟨Text.units "h", .null, false⟩], rfl,
      by simp [DataObject.values, Held]⟩
  · exact ⟨.array [some (.boolean true)], rfl, by simp [DataObject.values, Held]⟩

theorem agree_tampered : AgreeFrom plainState.data tamperedState.data (.object 6) := by
  intro ref hreach
  rcases reaches_of_closed held_closed (.inl rfl) hreach with h | h | h | h <;> cases h <;> rfl

end Script

/-- In the bad company too the object is what it is, even if no function can be called. -/
theorem Marshaller.pop_of_data_tampered :
    AllData plainState.data (.object 6) ∧
    AgreeFrom plainState.data tamperedState.data (.object 6) ∧
    ∀ (handler : Handler (scriptMachineBy .refusing) BoundFunction (HostState Unit)),
      ∃ s', (⟨none, 10, 10⟩ : Marshaller).pop handler
        ⟨⟨tamperedState, #[], ⟨.fresh, ()⟩⟩, #[.object 6], none⟩ =
          .ok (.map [(.string "a", .array [.boolean true])]) s' := by
  have hdata := allData_of_closed held_closed (.inl rfl)
  refine ⟨hdata, agree_tampered, fun handler => ?_⟩
  obtain ⟨s', hrun, -⟩ := (⟨none, 10, 10⟩ : Marshaller).pop_of_data hdata agree_tampered
    ⟨.fresh, ()⟩ tamperedState (.inr rfl) .refusing handler #[] #[]
  have hresult : (⟨none, 10, 10⟩ : Marshaller).converts plainState.data
      (Marshaller.standInFor ⟨none, 10, 10⟩ (⟨.fresh, ()⟩ : HostState Unit)) (.object 6) =
        .ok (.map [(.string "a", .array [.boolean true])]) := by with_unfolding_all rfl
  rw [hresult] at hrun
  exact ⟨s', hrun⟩

end ScriptHost
