import ScriptHost.Proofs.Stack.Poison

/-!
# Programs composed of primitives

Host code sees a value stack only through the primitives.  `Composed x` says that `x` is such code:
it carries out primitives in any order it likes, looking at what they answered and at a state of its
own, and may catch their errors, fail and panic.

* `Composed.assembled`, `Composed.keepsPoison`: such code never takes a poison back;
* `Records handler x s reason`: in the run of `x` from `s`, the first primitive that poisons the
  stack gives `reason`;
* `Composed.records`: **the reason found at the end is the first one recorded.**
-/

namespace ScriptHost

variable {M : Machine} {κ ω ε ε' α β : Type}

namespace Stack

/-- The primitives with their operands. -/
inductive IsPrimitive : {α : Type} → Stacked M κ ω EngineError α → Prop
  | poison {α : Type} (reason : String) : IsPrimitive (poison reason : Stacked M κ ω EngineError α)
  | isPoisoned : IsPrimitive isPoisoned
  | depth : IsPrimitive depth
  | setDepth (n : Nat) : IsPrimitive (setDepth n)
  | pop : IsPrimitive pop
  | dup (index : Nat) : IsPrimitive (dup index)
  | pushUndefined : IsPrimitive pushUndefined
  | pushNull : IsPrimitive pushNull
  | pushBoolean (b : Bool) : IsPrimitive (pushBoolean b)
  | pushNumber (x : Float) : IsPrimitive (pushNumber x)
  | pushString (text : List UInt8) : IsPrimitive (pushString text)
  | pushGlobal : IsPrimitive pushGlobal
  | pushArray : IsPrimitive pushArray
  | pushObject : IsPrimitive pushObject
  | pushError (kind : ErrorKind) (message : String) : IsPrimitive (pushError kind message)
  | pushNative (name : String) (body : κ) : IsPrimitive (pushNative name body)
  | append (index : Nat) : IsPrimitive (append index)
  | putProp (index : Nat) (key : List UInt8) : IsPrimitive (putProp index key)
  | putGlobal (name : List UInt8) : IsPrimitive (putGlobal name)
  | slotType (index : Nat) : IsPrimitive (slotType index)
  | getBoolean (index : Nat) : IsPrimitive (getBoolean index)
  | getNumber (index : Nat) : IsPrimitive (getNumber index)
  | getString (index : Nat) : IsPrimitive (getString index)
  | displayText (index : Nat) : IsPrimitive (displayText index)
  | arrayLength (index : Nat) : IsPrimitive (arrayLength index)
  | getIndex (index element : Nat) : IsPrimitive (getIndex index element)
  | ownKeys (index : Nat) : IsPrimitive (ownKeys index)
  | getProp (index : Nat) (key : List UInt8) : IsPrimitive (getProp index key)
  | runSource (source : List UInt8) (filename : String) : IsPrimitive (runSource source filename)
  | callMethod (count : Nat) : IsPrimitive (callMethod count)

theorem IsPrimitive.assembled {touches : ω → ω → Prop} {x : Stacked M κ ω EngineError α}
    (hx : IsPrimitive x) : x.Assembled touches EngineError.isFatal := by
  cases hx with
  | poison reason => exact assembled_poison reason
  | isPoisoned => exact .read _
  | depth => exact assembled_depth
  | setDepth n => exact assembled_setDepth n
  | pop => exact assembled_pop
  | dup index => exact assembled_dup index
  | pushUndefined => exact assembled_pushValue _
  | pushNull => exact assembled_pushValue _
  | pushBoolean b => exact assembled_pushValue _
  | pushNumber x => exact assembled_pushValue _
  | pushString text => exact assembled_pushValue _
  | pushGlobal => exact assembled_pushGlobal
  | pushArray => exact assembled_pushArray
  | pushObject => exact assembled_pushObject
  | pushError kind message => exact assembled_pushError kind message
  | pushNative name body => exact assembled_pushNative name body
  | append index => exact assembled_append index
  | putProp index key => exact assembled_putProp index key
  | putGlobal name => exact assembled_putGlobal name
  | slotType index => exact assembled_slotType index
  | getBoolean index => exact .read _
  | getNumber index => exact .read _
  | getString index => exact .read _
  | displayText index => exact assembled_displayText index
  | arrayLength index => exact assembled_arrayLength index
  | getIndex index element => exact assembled_getIndex index element
  | ownKeys index => exact assembled_ownKeys index
  | getProp index key => exact assembled_getProp index key
  | runSource source filename => exact assembled_runSource source filename
  | callMethod count => exact assembled_callMethod count

end Stack

namespace Stacked

/-- The program works on the stack only through the primitives. -/
inductive Composed : {ε α : Type} → Stacked M κ ω ε α → Prop
  | pure {ε α : Type} (a : α) : Composed (pure a : Stacked M κ ω ε α)
  | fail {ε α : Type} (e : ε) : Composed (fail e : Stacked M κ ω ε α)
  | panic {ε α : Type} (payload : Payload) : Composed (panic payload : Stacked M κ ω ε α)
  /-- A step on the host's own state. -/
  | withHost {ε α : Type} (f : ω → α × ω) : Composed (withHost f : Stacked M κ ω ε α)
  | primitive {α : Type} {x : Stacked M κ ω EngineError α} (hx : Stack.IsPrimitive x) : Composed x
  | attempt {ε ε' α : Type} {x : Stacked M κ ω ε α} (hx : Composed x) :
      Composed (x.attempt : Stacked M κ ω ε' (Except ε α))
  | bind {ε α β : Type} {x : Stacked M κ ω ε α} {f : α → Stacked M κ ω ε β} (hx : Composed x)
      (hf : ∀ a, Composed (f a)) : Composed (x >>= f)

/-- The host's own state may be changed in any way, and no error is called fatal. -/
theorem Composed.assembled {x : Stacked M κ ω ε α} (hx : Composed x) :
    x.Assembled (fun _ _ => True) fun _ => false := by
  induction hx with
  | pure a => exact .pure a
  | fail e => exact .fail rfl
  | panic payload => exact .panic payload
  | withHost f => exact .withHost fun _ => trivial
  | primitive hx => exact hx.assembled.keeping
  | @attempt ε ε' α x _ ih =>
    rw [← bind_pure (x.attempt : Stacked M κ ω ε' (Except ε α))]
    exact ih.attempting fun result => .pure result
  | bind _ _ ihx ihf => exact ihx.bind ihf

/-- **Poison is never taken back**, whatever is done next. -/
theorem Composed.keepsPoison {x : Stacked M κ ω ε α} (hx : Composed x) : x.KeepsPoison :=
  hx.assembled.honest

/-- The reason for which the stack is poisoned at the end of the run, if it is. -/
def poisonAfter (x : Stacked M κ ω ε α) (handler : Handler M κ ω) (s : Session M κ ω) :
    Option String :=
  match x handler s with
  | .ok _ s' | .error _ s' => s'.poison
  | .panicked .. | .exhausted => none

/-- In the run of a program from a session, the first primitive that leaves the stack poisoned gives
this reason. -/
inductive Records (handler : Handler M κ ω) :
    {ε α : Type} → Stacked M κ ω ε α → Session M κ ω → String → Prop
  | primitive {α : Type} {x : Stacked M κ ω EngineError α} {s : Session M κ ω} {reason : String}
      (hx : Stack.IsPrimitive x) (hs : s.poison = none)
      (h : x.poisonAfter handler s = some reason) :
      Records handler x s reason
  | attempt {ε ε' α : Type} {x : Stacked M κ ω ε α} {s : Session M κ ω} {reason : String}
      (h : Records handler x s reason) :
      Records handler (x.attempt : Stacked M κ ω ε' (Except ε α)) s reason
  /-- It is recorded in the first half, and whatever the second half does comes later. -/
  | first {ε α β : Type} {x : Stacked M κ ω ε α} {f : α → Stacked M κ ω ε β} {s : Session M κ ω}
      {reason : String} (h : Records handler x s reason) (hf : ∀ a, Composed (f a)) :
      Records handler (x >>= f) s reason
  /-- The first half leaves the stack unpoisoned. -/
  | second {ε α β : Type} {x : Stacked M κ ω ε α} {f : α → Stacked M κ ω ε β}
      {s s' : Session M κ ω} {a : α} {reason : String} (hx : x handler s = .ok a s')
      (hs : s'.poison = none) (h : Records handler (f a) s' reason) :
      Records handler (x >>= f) s reason

variable {handler : Handler M κ ω} {s : Session M κ ω}

theorem poisonAfter_attempt (x : Stacked M κ ω ε α) :
    (x.attempt : Stacked M κ ω ε' (Except ε α)).poisonAfter handler s =
      x.poisonAfter handler s := by
  unfold poisonAfter attempt
  cases x handler s <;> rfl

/-- A program that keeps poison ends with it, if it ends without a panic. -/
theorem KeepsPoison.poisonAfter {x : Stacked M κ ω ε α} (hx : x.KeepsPoison)
    (handler : Handler M κ ω) {reason : String} (hs : s.poison = some reason) :
    (∃ payload w, x handler s = .panicked payload w) ∨ x handler s = .exhausted ∨
      x.poisonAfter handler s = some reason := by
  have h := hx handler s
  unfold wp at h
  unfold Stacked.poisonAfter
  cases hr : x handler s with
  | ok a s' => rw [hr] at h; exact .inr (.inr (h reason hs))
  | error e s' => rw [hr] at h; exact .inr (.inr (h.1 reason hs))
  | panicked payload w => exact .inl ⟨payload, w, rfl⟩
  | exhausted => exact .inr (.inl rfl)

/-- What was recorded first is found at the end, if there is an end without a panic. -/
theorem Records.poisonAfter {x : Stacked M κ ω ε α} {reason : String}
    (h : Records handler x s reason) :
    (∃ payload w, x handler s = .panicked payload w) ∨ x handler s = .exhausted ∨
      x.poisonAfter handler s = some reason := by
  induction h with
  | primitive _ _ h => exact .inr (.inr h)
  | @attempt _ _ _ x s reason _ ih =>
    rw [poisonAfter_attempt]
    rcases ih with ⟨payload, w, h⟩ | h | h
    · exact .inl ⟨payload, w, by rw [Stacked.attempt, h]⟩
    · exact .inr (.inl (by rw [Stacked.attempt, h]))
    · exact .inr (.inr h)
  | @first _ _ _ x f s reason _ hf ih =>
    unfold Stacked.poisonAfter at ih ⊢
    rw [bind_apply]
    cases hx : x handler s with
    | ok a s' =>
      simp only [hx, reduceCtorEq, exists_false, false_or] at ih
      exact (hf a).keepsPoison.poisonAfter handler ih
    | error e s' => simpa [hx] using ih
    | panicked payload w => exact .inl ⟨payload, w, rfl⟩
    | exhausted => exact .inr (.inl rfl)
  | second hx _ _ ih =>
    unfold Stacked.poisonAfter at ih ⊢
    rw [bind_apply, hx]
    exact ih

/-- **The reason found at the end is the first one recorded.** -/
theorem Composed.records {x : Stacked M κ ω ε α} (hx : Composed x) (hs : s.poison = none)
    {reason : String} (h : x.poisonAfter handler s = some reason) : Records handler x s reason := by
  induction hx generalizing s reason with
  | pure a => exact absurd (hs.symm.trans h) (by simp)
  | fail e => exact absurd (hs.symm.trans h) (by simp)
  | panic payload => exact absurd (show none = some reason from h) (by simp)
  | withHost f => exact absurd (hs.symm.trans h) (by simp)
  | primitive hx => exact .primitive hx hs h
  | attempt _ ih =>
    rw [poisonAfter_attempt] at h
    exact .attempt (ih hs h)
  | @bind _ _ _ x f _ hf ihx ihf =>
    unfold Stacked.poisonAfter at h ihx ihf
    rw [bind_apply] at h
    cases hr : x handler s with
    | ok a s' =>
      simp only [hr] at h
      cases hs' : s'.poison with
      | none => exact .second hr hs' (ihf a hs' h)
      | some first =>
        -- The second half starts with the first reason and cannot change it.
        rcases (hf a).keepsPoison.poisonAfter handler hs' with ⟨p, w, hp⟩ | hp | hp
        · simp [hp] at h
        · simp [hp] at h
        · unfold Stacked.poisonAfter at hp
          obtain rfl : first = reason := Option.some.inj (hp.symm.trans h)
          exact .first (ihx hs (by rw [hr]; exact hs')) hf
    | error e s' =>
      simp only [hr] at h
      exact .first (ihx hs (by rw [hr]; exact h)) hf
    | panicked payload w => simp [hr] at h
    | exhausted => simp [hr] at h

end Stacked

end ScriptHost
