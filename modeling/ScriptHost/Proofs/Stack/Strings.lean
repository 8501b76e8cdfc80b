import ScriptHost.Proofs.Stack.Names

/-!
# Strings on the stack

The host hands strings and keys to the stack as the bytes of their characters, and gets them back as
engine text.  Between the two the machine has their units.

* `getString_pushString`: a string that is pushed, and then looked at;
* `putNamed`, `putProp_utf8`: what a key is for the machine;
* `exists_key_iff`: under which of its names a key comes back;
* `strings_survive`: all of them, with the text itself.
-/

namespace ScriptHost

open Stacked

namespace Stack

variable {M : Machine} {κ ω : Type}

theorem getString_pushString (s : String) (handler : Handler M κ ω) (t : Session M κ ω) :
    (do pushString (Text.utf8 s); getString t.slots.size :
        Stacked M κ ω EngineError (Option (List UInt8))) handler t =
      .ok (some (Text.encodeUnits (Text.units s)))
        { t with slots := t.slots.push (.string (Text.units s)) } := by
  rw [bind_apply, pushString, Text.decodeUnits_utf8]
  simp [pushValue, update, getString, Stacked.read]

/-- Moves the top value into the own property of these units of the object in slot `index`. -/
def putNamed (index : Nat) (name : Units) : Stacked M κ ω EngineError Unit := do
  let ref ← objectAt index
  let v ← takeTop
  perform (M.define ref name v)

theorem putProp_utf8 (index : Nat) (s : String) :
    (putProp index (Text.utf8 s) : Stacked M κ ω EngineError Unit) =
      putNamed index (Text.units s) := by
  unfold putProp putNamed
  rw [Text.decodeUnits_utf8]

/-- Among the text of some names there is that of `s` exactly if its units are among the names. -/
theorem exists_key_iff {names : List Units} {s : String} :
    (∃ key ∈ names.map Text.encodeUnits, Text.fromEngineText key = .ok s) ↔
      Text.units s ∈ names := by
  simp only [List.mem_map]
  constructor
  · rintro ⟨_, ⟨name, hname, rfl⟩, h⟩
    rwa [← Text.fromEngineText_encodeUnits_eq_ok_iff.mp h]
  · intro h
    exact ⟨_, ⟨_, h, rfl⟩, Text.fromEngineText_encodeUnits_eq_ok_iff.mpr rfl⟩

/-- **Host text crosses unchanged.**  The bytes of a string and the engine text of its units both
stand for its units, so the engine text of what its bytes stand for is read as the string again.
That is what becomes of a string that is pushed and looked at, whatever is on the stack; and of a
key: it defines the property with its units for a name, and it is among the keys that are listed for
an object, at whatever time, exactly if a name with these units is. -/
theorem strings_survive (s : String) :
    Text.decodeUnits (Text.utf8 s) = Text.units s ∧
    Text.decodeUnits (Text.encodeUnits (Text.units s)) = Text.units s ∧
    Text.fromEngineText (Text.encodeUnits (Text.decodeUnits (Text.utf8 s))) = .ok s ∧
    (∀ (handler : Handler M κ ω) (t : Session M κ ω), ∃ text,
      (do pushString (Text.utf8 s); getString t.slots.size :
          Stacked M κ ω EngineError (Option (List UInt8))) handler t =
        .ok (some text) { t with slots := t.slots.push (.string (Text.units s)) } ∧
      Text.fromEngineText text = .ok s) ∧
    (∀ index, (putProp index (Text.utf8 s) : Stacked M κ ω EngineError Unit) =
      putNamed index (Text.units s)) ∧
    ∀ (handler : Handler M κ ω) (index : Nat) (t t' : Session M κ ω) (keys : List (List UInt8)),
      ownKeys index handler t = .ok keys t' →
      ∃ ref listed w₁ kept w₂, t.slots[index]? = some (.object ref) ∧
        (M.keys ref t.world.machine).drive handler t.world = .ended (.ok listed) w₁ ∧
        Sifted handler ref w₁ listed kept w₂ ∧
        ((∃ key ∈ keys, Text.fromEngineText key = .ok s) ↔ Text.units s ∈ kept) := by
  have htext := Text.fromEngineText_encodeUnits_eq_ok_iff.mpr (rfl : Text.units s = Text.units s)
  refine ⟨Text.decodeUnits_utf8 s, Text.decodeUnits_encodeUnits _, ?_, fun handler t => ?_,
    fun index => putProp_utf8 index s, fun handler index t t' keys h => ?_⟩
  · rw [Text.decodeUnits_utf8, htext]
  · exact ⟨_, getString_pushString s handler t, htext⟩
  · obtain ⟨ref, listed, w₁, kept, w₂, hv, hlisted, hkept, rfl, -⟩ := ownKeys_eq_ok h
    exact ⟨ref, listed, w₁, kept, w₂, hv, hlisted, hkept, exists_key_iff⟩

end Stack

end ScriptHost
