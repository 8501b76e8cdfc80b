import ScriptHost.Proofs.Crossing.Assembled
import ScriptHost.Proofs.Stack.Logged

/-!
# Readings with notes

`Marshaller.popNoted` is the conversion of the top slot with notes of all that it does on the way:
which slots it reads and when it is done with each, what the machine says of the size of a
container, what is taken from the budget, and every element and member that it asks for.

* `ReadNote`: the notes;
* `readNoted`, `popNoted`: the conversion, step by step as `read` and `pop`;
* `erased_popNoted`: **without the notes it is the conversion**,
  and `popNotes` are the notes of one.
-/

namespace ScriptHost

open Stack Stacked Crossing

variable {M : Machine} {δ : Type} {handler : Handler M BoundFunction (HostState δ)}

/-- A note of a conversion. -/
inductive ReadNote
  /-- The reading of a slot begins. -/
  | enter (slot : Nat)
  /-- The innermost reading has ended. -/
  | leave
  /-- The array that is being read has so many elements. -/
  | length (count : Nat)
  /-- The object that is being read has these keys. -/
  | keys (keys : List (List UInt8))
  /-- So many elements have been taken from the budget. -/
  | charge (count : Nat)
  /-- An element or a member of the container in the slot is asked for. -/
  | fetch (slot : Nat)
  /-- Something stands in for a value without a host form. -/
  | replace
  deriving DecidableEq

/-- A program of the crossing that writes such notes. -/
abbrev Noted (M : Machine) (δ α : Type) := Logged M BoundFunction (HostState δ) ReadNote Error α

namespace Marshaller

open Logged

variable (m : Marshaller)

/-- How a container reads a slot, with notes. -/
abbrev NotedReader (M : Machine) (δ : Type) := (slot budget : Nat) → Noted M δ (HostValue × Nat)

/-- `readItems` with a note before each element is asked for. -/
def readItemsNoted (reader : NotedReader M δ) (array : Nat) :
    (count next budget : Nat) → List HostValue → Noted M δ (List HostValue × Nat)
  | 0, _, budget, done => pure (done.reverse, budget)
  | count + 1, next, budget, done => do
    let base ← quietly depth
    note (.fetch array)
    quietly (check (getIndex array next))
    let item ← (reader base budget).attempt
    quietly (setDepth base)
    let (item, budget) ← quietly (Crossing.ofExcept item)
    readItemsNoted reader array count (next + 1) budget (item :: done)

/-- `readEntries` with a note before each member is asked for. -/
def readEntriesNoted (reader : NotedReader M δ) (object : Nat) :
    List (List UInt8) → (budget : Nat) → List (HostValue × HostValue) →
      Noted M δ (List (HostValue × HostValue) × Nat)
  | [], budget, done => pure (done.reverse, budget)
  | key :: rest, budget, done => do
    let base ← quietly depth
    note (.fetch object)
    let _ ← quietly (check (getProp object key))
    if (← quietly (slotType base)) = .function then
      quietly (setDepth base)
      readEntriesNoted reader object rest budget done
    else
      let item ← (reader base budget).attempt
      quietly (setDepth base)
      let name ← quietly (Crossing.ofExcept (hostText key))
      let (value, budget) ← quietly (Crossing.ofExcept item)
      readEntriesNoted reader object rest budget ((.string name, value) :: done)

/-- `read` with notes of where it begins and ends, of the size of a container and of what is taken
from the budget. -/
def readNoted : (levels : Nat) → NotedReader M δ
  | 0, slot, _ => within (.enter slot) .leave (quietly (.fail (.typeError (tooDeep m.maxDepth))))
  | levels + 1, slot, budget => within (.enter slot) .leave do
    match ← quietly (slotType slot) with
    | .none => quietly ((poison s!"no value at slot {slot}").mapError Error.ofEngineError)
    | .undefined | .null => pure (.null, budget)
    | .boolean => pure (.boolean (← quietly (getBoolean slot)), budget)
    | .number => pure (.number (← quietly (getNumber slot)), budget)
    | .string =>
      let text ← quietly (Stack.getString slot)
      let text ← quietly (Crossing.ofExcept (hostText (text.getD [])))
      pure (.string text, budget)
    | .array =>
      let length ← quietly (check (arrayLength slot))
      note (.length length)
      let budget ← quietly (Crossing.ofExcept (m.charge budget length))
      note (.charge length)
      let (items, budget) ← readItemsNoted (readNoted levels) slot length 0 budget []
      pure (.array items, budget)
    | .object =>
      let keys ← quietly (check (ownKeys slot))
      note (.keys keys)
      let budget ← quietly (Crossing.ofExcept (m.charge budget keys.length))
      note (.charge keys.length)
      let (entries, budget) ← readEntriesNoted (readNoted levels) slot keys budget []
      pure (.map entries, budget)
    | .function | .other => do
      note .replace
      pure (← quietly m.standIn, budget)

/-- `pop` with the notes of its reading. -/
def popNoted : Noted M δ HostValue := do
  match ← quietly depth with
  | 0 => quietly ((poison "no value to convert").mapError Error.ofEngineError)
  | top + 1 =>
    let value ← (m.readNoted (m.maxDepth + 1) top m.maxElements).attempt
    quietly (setDepth top)
    let (value, _) ← quietly (Crossing.ofExcept value)
    pure value

/-! ## Erasure -/

theorem erased_readItemsNoted {noted : NotedReader M δ} {reader : Reader M δ}
    (hreader : ∀ slot budget, (noted slot budget).erased = reader slot budget)
    (array count next budget : Nat) (done : List HostValue) :
    (readItemsNoted noted array count next budget done).erased =
      readItems reader array count next budget done := by
  induction count generalizing next budget done with
  | zero => rfl
  | succ count ih =>
    rw [readItems_succ, readItemsNoted]
    simp only [erased_bind, erased_quietly, erased_note, pure_bind, erased_attempt, hreader, ih]

theorem erased_readEntriesNoted {noted : NotedReader M δ} {reader : Reader M δ}
    (hreader : ∀ slot budget, (noted slot budget).erased = reader slot budget) (object : Nat)
    (keys : List (List UInt8)) (budget : Nat) (done : List (HostValue × HostValue)) :
    (readEntriesNoted noted object keys budget done).erased =
      readEntries reader object keys budget done := by
  induction keys generalizing budget done with
  | nil => rfl
  | cons key rest ih =>
    rw [readEntries, readEntriesNoted]
    simp only [erased_bind, erased_quietly, erased_note, pure_bind]
    refine bind_congr fun base => bind_congr fun _ => bind_congr fun kind => ?_
    split
    · simp only [erased_bind, erased_quietly, ih]
    · simp only [erased_bind, erased_quietly, erased_attempt, hreader, ih]

theorem erased_readNoted (levels slot budget : Nat) :
    (m.readNoted levels slot budget : Noted M δ _).erased = m.read levels slot budget := by
  induction levels generalizing slot budget with
  | zero => simp only [readNoted, read, erased_within, erased_quietly]
  | succ levels ih =>
    rw [readNoted, read, erased_within, erased_bind, erased_quietly]
    refine bind_congr fun kind => ?_
    split
    · rfl
    · rfl
    · rfl
    · rfl
    · rfl
    · simp only [erased_bind, erased_quietly, erased_pure]
    · simp only [erased_bind, erased_quietly, erased_note, pure_bind, erased_pure,
        erased_readItemsNoted ih]
    · simp only [erased_bind, erased_quietly, erased_note, pure_bind, erased_pure,
        erased_readEntriesNoted ih]
    · simp only [erased_bind, erased_quietly, erased_note, pure_bind, erased_pure]
    · simp only [erased_bind, erased_quietly, erased_note, pure_bind, erased_pure]

/-- **Without its notes it is the conversion.** -/
theorem erased_popNoted : (m.popNoted : Noted M δ HostValue).erased = m.pop := by
  rw [popNoted, pop, erased_bind, erased_quietly]
  refine bind_congr fun n => ?_
  cases n with
  | zero => rfl
  | succ top =>
    simp only [erased_bind, erased_quietly, erased_attempt, erased_pure, erased_readNoted]

/-- The notes of the conversion of the top slot. -/
def popNotes (handler : Handler M BoundFunction (HostState δ))
    (s : Session M BoundFunction (HostState δ)) : List ReadNote :=
  (m.popNoted : Noted M δ HostValue).log handler s

variable {m}

theorem eq_add_of_charge {budget count left : Nat} {s s' : Session M BoundFunction (HostState δ)}
    (h : (Crossing.ofExcept (m.charge budget count) : Crossing M δ Error Nat) handler
      s = .ok left s') :
    budget = count + left := by
  unfold charge at h
  split at h
  · cases h
    omega
  · cases h

end Marshaller

end ScriptHost
