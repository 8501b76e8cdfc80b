import ScriptHost.Crossing.Push

/-!
# Script values to host values

`Marshaller.pop` converts the top slot and always takes it off.  Nesting and size are bounded: a
container's whole length or number of keys is charged to one budget before any of it is read.
-/

namespace ScriptHost

open Stack Crossing

variable {M : Machine} {δ ε : Type}

/-- The host string of engine text, or its encoding error. -/
def hostText (bytes : List UInt8) : Except Error String :=
  (Text.fromEngineText bytes).mapError .encoding

/-- Fails with the error, if it is one. -/
def Crossing.ofExcept {α : Type} : Except ε α → Crossing M δ ε α
  | .ok a => pure a
  | .error e => .fail e

namespace Marshaller

variable (m : Marshaller)

/-- What is left of a budget after `count` more elements. -/
def charge (budget count : Nat) : Except Error Nat :=
  if count ≤ budget then .ok (budget - count)
  else .error (.typeError s!"value has more than {m.maxElements} elements")

/-- What stands for a value without a host form. -/
def standIn : Crossing M δ ε HostValue :=
  match m.complex with
  | some v => pure v
  | none => .withHost fun host =>
    let (sentinel, source) := host.sentinels.take
    (.complexObject sentinel, { host with sentinels := source })

/-- How a container reads a slot with what is left of the budget: the value, and the budget after
it. -/
abbrev Reader (M : Machine) (δ : Type) := (slot budget : Nat) → Crossing M δ Error (HostValue × Nat)

/-- Reads the `count` elements from `next` on of the array in slot `array`, behind those of `done`,
which are in reverse order. -/
def readItems (reader : Reader M δ) (array : Nat) :
    (count next budget : Nat) → List HostValue → Crossing M δ Error (List HostValue × Nat)
  | 0, _, budget, done => pure (done.reverse, budget)
  | count + 1, next, budget, done => fun handler s =>
    let one : Crossing M δ Error (HostValue × Nat) := do
      let base ← depth
      check (getIndex array next)
      let item ← (reader base budget).attempt
      setDepth base
      Crossing.ofExcept item
    match one handler s with
    | .ok (item, budget) s' =>
      readItems reader array count (next + 1) budget (item :: done) handler s'
    | .error e s' => .error e s'
    | .panicked payload w => .panicked payload w
    | .exhausted => .exhausted

/-- Reads the entries with the given keys of the object in slot `object`, behind those of `done`,
which are in reverse order.  Functions are left out. -/
def readEntries (reader : Reader M δ) (object : Nat) :
    List (List UInt8) → (budget : Nat) → List (HostValue × HostValue) →
      Crossing M δ Error (List (HostValue × HostValue) × Nat)
  | [], budget, done => pure (done.reverse, budget)
  | key :: rest, budget, done => do
    let base ← depth
    let _ ← check (getProp object key)
    if (← slotType base) = .function then
      setDepth base
      readEntries reader object rest budget done
    else
      let item ← (reader base budget).attempt
      setDepth base
      let name ← Crossing.ofExcept (hostText key)
      let (value, budget) ← Crossing.ofExcept item
      readEntries reader object rest budget ((.string name, value) :: done)

/-- Reads the slot; `levels` is how much deeper a value may still nest, none if it is too deep
already. -/
def read : (levels : Nat) → Reader M δ
  | 0, _, _ => .fail (.typeError (tooDeep m.maxDepth))
  | levels + 1, slot, budget => do
    match ← slotType slot with
    | .none => (poison s!"no value at slot {slot}").mapError Error.ofEngineError
    | .undefined | .null => pure (.null, budget)
    | .boolean => pure (.boolean (← getBoolean slot), budget)
    | .number => pure (.number (← getNumber slot), budget)
    | .string =>
      let text ← Crossing.ofExcept (hostText ((← getString slot).getD []))
      pure (.string text, budget)
    | .array =>
      let length ← check (arrayLength slot)
      let budget ← Crossing.ofExcept (m.charge budget length)
      let (items, budget) ← readItems (read levels) slot length 0 budget []
      pure (.array items, budget)
    | .object =>
      let keys ← check (ownKeys slot)
      let budget ← Crossing.ofExcept (m.charge budget keys.length)
      let (entries, budget) ← readEntries (read levels) slot keys budget []
      pure (.map entries, budget)
    | .function | .other => pure (← m.standIn, budget)

/-- Converts the top slot and takes it off. -/
def pop : Crossing M δ Error HostValue := do
  match ← depth with
  | 0 => (poison "no value to convert").mapError Error.ofEngineError
  | top + 1 =>
    let value ← (m.read (m.maxDepth + 1) top m.maxElements).attempt
    setDepth top
    let (value, _) ← Crossing.ofExcept value
    pure value

end Marshaller

end ScriptHost
