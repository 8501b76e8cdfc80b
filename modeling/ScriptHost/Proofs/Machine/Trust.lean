import ScriptHost.Stack.Session

/-!
# What is relied on of a machine

The host cannot see what script does, but it relies on two things: an object that is an array stays
one, and the machine itself does not break down.  Both are said of a run without regard to how its
calls of host functions are answered.

* `Machine.KeepsArrays`, `Machine.NeverCrashes`: the two assumptions;
* `Handler.Keeps`: the same of the host functions that answer calls;
* `Trust`: what they amount to for runs with their calls answered, and `Machine.trust`.

Panics are let through where a parameter `broken` admits them; with `fun _ _ => False` there are
none.  Where all are let through (`LetsPanic`), the machine may break down as well.
-/

namespace ScriptHost

variable {M : Machine} {κ ω α : Type}

namespace Machine

/-- No array has become anything else. -/
def Later (M : Machine) (s s' : M.State) : Prop :=
  ∀ ref, M.shape s ref = .array → M.shape s' ref = .array

theorem Later.refl (s : M.State) : M.Later s s := fun _ h => h

theorem Later.trans {s s' s'' : M.State} (h : M.Later s s') (h' : M.Later s' s'') :
    M.Later s s'' := fun ref hr => h' ref (h ref hr)

/-- The operations that may run script. -/
inductive IsRun (M : Machine) : {α : Type} → (M.State → Act M.State α) → Prop
  | append (ref : Ref) (v : ScriptValue) : IsRun M (M.append ref v)
  | define (ref : Ref) (name : Units) (v : ScriptValue) : IsRun M (M.define ref name v)
  | defineHidden (ref : Ref) (name : Units) (v : ScriptValue) : IsRun M (M.defineHidden ref name v)
  | length (ref : Ref) : IsRun M (M.length ref)
  | element (ref : Ref) (n : Nat) : IsRun M (M.element ref n)
  | keys (ref : Ref) : IsRun M (M.keys ref)
  | isEnumerable (ref : Ref) (name : Units) : IsRun M (M.isEnumerable ref name)
  | hasOwn (ref : Ref) (name : Units) : IsRun M (M.hasOwn ref name)
  | has (ref : Ref) (name : Units) : IsRun M (M.has ref name)
  | get (ref : Ref) (name : Units) : IsRun M (M.get ref name)
  | setGlobal (name : Units) (v : ScriptValue) : IsRun M (M.setGlobal name v)
  | toObject (v : ScriptValue) : IsRun M (M.toObject v)
  | toText (v : ScriptValue) : IsRun M (M.toText v)
  | run (source : List UInt8) (filename : String) : IsRun M (M.run source filename)
  | call (ref : Ref) (this : ScriptValue) (args : List ScriptValue) : IsRun M (M.call ref this args)

/-- The operations that make an object. -/
inductive IsMaking (M : Machine) : (M.State → Ref × M.State) → Prop
  | newArray : IsMaking M M.newArray
  | newObject : IsMaking M M.newObject
  | newError (kind : ErrorKind) (message : Units) : IsMaking M (M.newError kind message)
  | newNative (name : Units) (id : NativeId) : IsMaking M (M.newNative name id)

end Machine

namespace Act

/-- In the course of a run that started in `start`, no array becomes anything else, if none does
while the host is called. -/
def KeepsArrays (M : Machine) : (start : M.State) → Act M.State α → Prop
  | start, .done s _ => M.Later start s
  | _, .crash _ | _, .exhausted => True
  | start, .native s _ _ _ next =>
    M.Later start s ∧ ∀ s' reply, M.Later s s' → KeepsArrays M s' (next s' reply)

/-- The machine does not break down in the course of the run. -/
def NeverCrashes {σ : Type} : Act σ α → Prop
  | .done .. | .exhausted => True
  | .crash _ => False
  | .native _ _ _ _ next => ∀ s reply, (next s reply).NeverCrashes

end Act

/-- An object that is an array stays one, and those made as arrays are. -/
structure Machine.KeepsArrays (M : Machine) : Prop where
  runs : ∀ {α : Type} {f : M.State → Act M.State α}, M.IsRun f → ∀ s, (f s).KeepsArrays M s
  makes : ∀ {f : M.State → Ref × M.State}, M.IsMaking f → ∀ s, M.Later s (f s).2
  newArray : ∀ s, M.shape (M.newArray s).2 (M.newArray s).1 = .array

/-- The machine itself does not panic. -/
def Machine.NeverCrashes (M : Machine) : Prop :=
  ∀ {α : Type} {f : M.State → Act M.State α}, M.IsRun f → ∀ s, (f s).NeverCrashes

/-- The end of a call that came at `start`: arrays were kept, or there was a panic as `broken` says.
-/
def NativeResult.Keeps (start : M.State) (broken : Payload → World M κ ω → Prop) :
    NativeResult M κ ω → Prop
  | .ended _ w => M.Later start w.machine
  | .panicked payload w => broken payload w
  | .exhausted => True

/-- The host functions keep arrays, and panic only as `broken` says. -/
def Handler.Keeps (handler : Handler M κ ω) (broken : Payload → World M κ ω → Prop) : Prop :=
  ∀ k this args w, (handler k this args w).Keeps w.machine broken

/-- The same of a run that started in `start`. -/
def Driven.Keeps (start : M.State) (broken : Payload → World M κ ω → Prop) :
    Driven M κ ω α → Prop
  | .ended _ w => M.Later start w.machine
  | .panicked payload w => broken payload w
  | .exhausted => True

/-- **What is relied on.** With its calls answered by `handler`, a run keeps arrays, and panics only
as `broken` says. -/
structure Trust (handler : Handler M κ ω) (broken : Payload → World M κ ω → Prop) : Prop where
  runs : ∀ {α : Type} {f : M.State → Act M.State α}, M.IsRun f → ∀ w : World M κ ω,
    ((f w.machine).drive handler w).Keeps w.machine broken
  makes : ∀ {f : M.State → Ref × M.State}, M.IsMaking f → ∀ s, M.Later s (f s).2
  newArray : ∀ s, M.shape (M.newArray s).2 (M.newArray s).1 = .array

/-- All panics are let through. -/
def LetsPanic (broken : Payload → World M κ ω → Prop) : Prop := ∀ payload w, broken payload w

variable {handler : Handler M κ ω} {broken : Payload → World M κ ω → Prop}

theorem Driven.Keeps.of_later {start s : M.State} (hs : M.Later start s) {d : Driven M κ ω α}
    (h : d.Keeps s broken) : d.Keeps start broken := by
  cases d with
  | ended result w => exact hs.trans h
  | panicked payload w => exact h
  | exhausted => trivial

/-- A run that keeps arrays and does not crash, its calls answered by host functions that keep
arrays too. -/
theorem Act.KeepsArrays.drive (hh : handler.Keeps broken) {act : Act M.State α} {start : M.State}
    (ha : act.KeepsArrays M start) (hc : act.NeverCrashes ∨ LetsPanic broken) (w : World M κ ω) :
    (act.drive handler w).Keeps start broken := by
  induction act generalizing start w with
  | done s result => exact ha
  | crash message => exact hc.elim False.elim fun h => h _ w
  | exhausted => trivial
  | native s function this args next ih =>
    obtain ⟨hs, hnext⟩ := ha
    unfold Act.drive
    cases w.natives[function.index]? with
    | none => exact (ih s _ (hnext s _ (.refl s)) (hc.imp_left fun h => h s _) w).of_later hs
    | some body =>
      -- The host starts from the state of the call, and the run goes on from where the host ends.
      have hcall := hh body this args { w with machine := s }
      dsimp only
      cases hr : handler body this args { w with machine := s } with
      | ended reply w' =>
        rw [hr] at hcall
        have hc' := hc.imp_left fun h => h w'.machine reply
        exact (ih w'.machine reply (hnext _ _ hcall) hc' w').of_later (hs.trans hcall)
      | panicked payload w' =>
        rw [hr] at hcall
        exact hcall
      | exhausted => trivial

theorem Machine.trust_of_keeps (hM : M.KeepsArrays) (hc : M.NeverCrashes ∨ LetsPanic broken)
    (hh : handler.Keeps broken) : Trust handler broken where
  runs hf w := (hM.runs hf w.machine).drive hh (hc.imp_left fun h => h hf w.machine) w
  makes := hM.makes
  newArray := hM.newArray

theorem Machine.trust (hM : M.KeepsArrays) (hc : M.NeverCrashes) (hh : handler.Keeps broken) :
    Trust handler broken := trust_of_keeps hM (.inl hc) hh

end ScriptHost
