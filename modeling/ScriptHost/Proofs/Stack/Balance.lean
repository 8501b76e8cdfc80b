import ScriptHost.Proofs.Machine.Silent
import ScriptHost.Proofs.Stack.Effect
import ScriptHost.Proofs.Stack.Uncaught

/-!
# What goes off the stack and what goes on

A primitive that can fail is a first half that takes its operands off the stack and a second half
that works on the machine and puts the result on top.  The first half fails only for good, and only
while nothing has been taken; the second half fails only because script threw, and then has put
nothing on top but what was thrown.  The law for all of them follows from that one shape.

* `Takes`, `Puts`: the two halves, each closed under sequences, and `Takes.balanced`: one behind the
  other;
* `Throws`: the value that a program throws, by the operation of the machine that failed with it;
* `Balanced`: so many values taken and so many left, with what is under them untouched;
* `Fallible`: the primitives with their operands, and for each of them its numbers;
* `takeCall_of_append`: what a call takes off the stack;
* `KeepsStack`: a program that never fails and leaves the stack alone;
* `primitives_balanced`: **the law**.
-/

namespace ScriptHost

variable {M : Machine} {κ ω ε α β : Type}

namespace Stacked

/-- The program throws this value: it comes to an operation of the machine that fails with it, or it
makes the error for a call of something that is not a function. -/
inductive Throws (handler : Handler M κ ω) (x : Stacked M κ ω EngineError α) (s : Session M κ ω) :
    ScriptValue → Prop
  | failed {β : Type} {f : M.State → Act M.State β} {t : Session M κ ω} {failure : Failure}
      {w : World M κ ω} (hf : M.IsRun f) (hrun : RunsInto handler (Stack.perform f) t x s)
      (hend : (f t.world.machine).drive handler t.world = .ended (.error failure) w) :
      Throws handler x s (Stack.thrownIn failure w).1
  | notCallable {t : Session M κ ω}
      (hrun : RunsInto handler (Stack.pushError .typeError "not callable") t x s) :
      Throws handler x s
        (.object (M.newError .typeError (Text.units "not callable") t.world.machine).1)

theorem Throws.first {handler : Handler M κ ω} {x : Stacked M κ ω EngineError α}
    {f : α → Stacked M κ ω EngineError β} {s : Session M κ ω} {v : ScriptValue}
    (h : x.Throws handler s v) : (x >>= f).Throws handler s v := by
  cases h with
  | failed hf hrun hend => exact .failed hf (.first hrun) hend
  | notCallable hrun => exact .notCallable (.first hrun)

theorem Throws.second {handler : Handler M κ ω} {x : Stacked M κ ω EngineError α}
    {f : α → Stacked M κ ω EngineError β} {a : α} {s s' : Session M κ ω} {v : ScriptValue}
    (hx : x handler s = .ok a s') (h : (f a).Throws handler s' v) :
    (x >>= f).Throws handler s v := by
  cases h with
  | failed hf hrun hend => exact .failed hf (.second hx hrun) hend
  | notCallable hrun => exact .notCallable (.second hx hrun)

/-! ## The first half -/

/-- The program takes `n` values off the stack.  If there are not so many, or one of its checks
fails, it fails for good, and all it has done is to poison the stack. -/
def Takes (n : Nat) (x : Stacked M κ ω EngineError α) : Prop := ∀ handler s,
  (n ≤ s.slots.size ∧
    ∃ a, x handler s = .ok a { s with slots := s.slots.take (s.slots.size - n) }) ∨
  ∃ reason, x handler s = .error (.fatal reason) { s with poison := some (s.poison.getD reason) }

theorem takes_zero_of_eq {x : Stacked M κ ω EngineError α}
    (h : ∀ handler s, ∃ a, x handler s = .ok a s) : x.Takes 0 := by
  intro handler s
  obtain ⟨a, ha⟩ := h handler s
  refine .inl ⟨Nat.zero_le _, a, ?_⟩
  simpa using ha

theorem takes_pure (a : α) : (pure a : Stacked M κ ω EngineError α).Takes 0 :=
  takes_zero_of_eq fun _ _ => ⟨a, rfl⟩

theorem takes_read (f : Session M κ ω → α) : (read f : Stacked M κ ω EngineError α).Takes 0 :=
  takes_zero_of_eq fun _ s => ⟨f s, rfl⟩

theorem Takes.bind {n : Nat} {x : Stacked M κ ω EngineError α}
    {f : α → Stacked M κ ω EngineError β} (hx : x.Takes 0) (hf : ∀ a, (f a).Takes n) :
    (x >>= f).Takes n := by
  intro handler s
  rcases hx handler s with ⟨-, a, ha⟩ | ⟨reason, hreason⟩
  · have hrun : x handler s = .ok a s := by simpa using ha
    rw [bind_eq_of_ok hrun]
    exact hf a handler s
  · exact .inr ⟨reason, bind_eq_of_error hreason⟩

/-! ## The second half -/

/-- The program leaves `n` values on top of the stack.  If it fails, script has thrown a value, and
that is left there instead. -/
def Puts (n : Nat) (x : Stacked M κ ω EngineError α) : Prop := ∀ handler s, x.wp handler
  ⟨fun _ s' => s'.poison = s.poison ∧ ∃ vs : Array ScriptValue, vs.size = n ∧
      s'.slots = s.slots ++ vs,
    fun e s' => e = .thrown ∧ s'.poison = s.poison ∧ ∃ v, x.Throws handler s v ∧
      s'.slots = s.slots.push v,
    fun _ _ => True⟩ s

theorem puts_pure (a : α) : (pure a : Stacked M κ ω EngineError α).Puts 0 :=
  fun _ _ => ⟨rfl, #[], rfl, Array.append_empty.symm⟩

/-- As long as nothing has been put on the stack, the program may go on. -/
theorem Puts.bind {n : Nat} {x : Stacked M κ ω EngineError α}
    {f : α → Stacked M κ ω EngineError β} (hx : x.Puts 0) (hf : ∀ a, (f a).Puts n) :
    (x >>= f).Puts n := by
  intro handler s
  have h := hx handler s
  unfold wp at h ⊢
  cases hrun : x handler s with
  | ok a s' =>
    rw [hrun] at h
    rw [bind_eq_of_ok hrun]
    obtain ⟨hpoison, vs, hsize, hslots⟩ := h
    obtain rfl : vs = #[] := Array.eq_empty_of_size_eq_zero hsize
    rw [Array.append_empty] at hslots
    rw [← hpoison, ← hslots]
    refine wp_mono (hf a handler s') (fun _ _ h => h) (fun e t ⟨he, hp, v, hv, ht⟩ => ?_)
      fun _ _ h => h
    exact ⟨he, hp, v, hv.second hrun, ht⟩
  | error e s' =>
    rw [hrun] at h
    rw [bind_eq_of_error hrun]
    obtain ⟨he, hp, v, hv, ht⟩ := h
    exact ⟨he, hp, v, hv.first, ht⟩
  | panicked payload w => simp only [bind_apply, hrun]
  | exhausted => simp only [bind_apply, hrun]

theorem Puts.map {n : Nat} {x : Stacked M κ ω EngineError α} (hx : x.Puts n) (f : α → β) :
    (x >>= fun a => pure (f a)).Puts n := by
  intro handler s
  refine (wp_bind _ _).mpr (wp_mono (hx handler s) (fun _ _ h => h) ?_ fun _ _ h => h)
  exact fun _ _ ⟨he, hp, v, hv, ht⟩ => ⟨he, hp, v, hv.first, ht⟩

/-! ## Programs beside the stack -/

/-- The program never fails, and leaves the stack alone. -/
def KeepsStack (x : Stacked M κ ω ε α) : Prop := ∀ handler s, x.wp handler
  ⟨fun _ s' => s'.poison = s.poison ∧ s'.slots = s.slots, fun _ _ => False, fun _ _ => True⟩ s

theorem keepsStack_pure (a : α) : (pure a : Stacked M κ ω ε α).KeepsStack := fun _ _ => ⟨rfl, rfl⟩

theorem keepsStack_read (f : Session M κ ω → α) : (read f : Stacked M κ ω ε α).KeepsStack :=
  fun _ _ => ⟨rfl, rfl⟩

theorem KeepsStack.bind {x : Stacked M κ ω ε α} {f : α → Stacked M κ ω ε β} (hx : x.KeepsStack)
    (hf : ∀ a, (f a).KeepsStack) : (x >>= f).KeepsStack := by
  intro handler s
  refine wp_then (hx handler s) fun a s' h => ?_
  exact wp_imp (hf a handler s') fun _ _ h' => ⟨h'.1.trans h.1, h'.2.trans h.2⟩

/-! ## Both of them -/

/-- How a program ends that takes `pops` values and leaves `pushes` of them: with so many on what is
left of the stack, or with a thrown value on it, or else for good, with the stack poisoned and
nothing else changed. -/
def balance (handler : Handler M κ ω) (x : Stacked M κ ω EngineError α) (s : Session M κ ω)
    (pops pushes : Nat) : Post M κ ω EngineError α where
  ok _ s' := pops ≤ s.slots.size ∧ s'.poison = s.poison ∧
    s'.slots.size = s.slots.size - pops + pushes ∧
    ∃ vs, s'.slots = s.slots.take (s.slots.size - pops) ++ vs
  error
    | .thrown, s' => pops ≤ s.slots.size ∧ s'.poison = s.poison ∧
      s'.slots.size = s.slots.size - pops + 1 ∧
      ∃ v, x.Throws handler s v ∧ s'.slots = (s.slots.take (s.slots.size - pops)).push v
    | .fatal reason, s' => s' = { s with poison := some (s.poison.getD reason) }
  panicked _ _ := True

/-- Each run of the program ends in this way, if it ends. -/
def Balanced (pops pushes : Nat) (x : Stacked M κ ω EngineError α) : Prop := ∀ handler s,
  x.wp handler (balance handler x s pops pushes) s

/-- **What is taken first and left afterwards.** -/
theorem Takes.balanced {pops pushes : Nat} {x : Stacked M κ ω EngineError α}
    {f : α → Stacked M κ ω EngineError β} (hx : x.Takes pops) (hf : ∀ a, (f a).Puts pushes) :
    (x >>= f).Balanced pops pushes := by
  intro handler s
  rcases hx handler s with ⟨henough, a, ha⟩ | ⟨reason, hreason⟩
  · have h := hf a handler { s with slots := s.slots.take (s.slots.size - pops) }
    unfold wp
    rw [bind_eq_of_ok ha]
    refine wp_mono h ?_ ?_ fun _ _ h => h
    · rintro _ s' ⟨hpoison, vs, hsize, hslots⟩
      exact ⟨henough, hpoison, by simp [hslots, hsize], vs, hslots⟩
    · rintro _ s' ⟨rfl, hpoison, v, hv, hslots⟩
      exact ⟨henough, hpoison, by simp [hslots], v, hv.second ha, hslots⟩
  · unfold wp
    rw [bind_eq_of_error hreason]
    rfl

/-- Checks may come before it. -/
theorem Takes.before {pops pushes : Nat} {x : Stacked M κ ω EngineError α}
    {f : α → Stacked M κ ω EngineError β} (hx : x.Takes 0)
    (hf : ∀ a, (f a).Balanced pops pushes) : (x >>= f).Balanced pops pushes := by
  intro handler s
  rcases hx handler s with ⟨-, a, ha⟩ | ⟨reason, hreason⟩
  · have hrun : x handler s = .ok a s := by simpa using ha
    unfold wp
    rw [bind_eq_of_ok hrun]
    refine wp_mono (hf a handler s) (fun _ _ h => h) (fun e s' h => ?_) fun _ _ h => h
    cases e with
    | thrown =>
      obtain ⟨henough, hpoison, hsize, v, hv, hslots⟩ := h
      exact ⟨henough, hpoison, hsize, v, hv.second hrun, hslots⟩
    | fatal reason => exact h
  · unfold wp
    rw [bind_eq_of_error hreason]
    rfl

theorem Puts.balanced {pushes : Nat} {x : Stacked M κ ω EngineError α} (hx : x.Puts pushes) :
    x.Balanced 0 pushes :=
  (takes_pure ()).balanced fun _ => hx

end Stacked

namespace Stack

open Stacked

/-! ## The first half of each primitive -/

theorem takes_poison (reason : String) (n : Nat) :
    (poison reason : Stacked M κ ω EngineError α).Takes n :=
  fun _ _ => .inr ⟨reason, rfl⟩

theorem takes_slot (index : Nat) :
    (slot index : Stacked M κ ω EngineError ScriptValue).Takes 0 := by
  unfold slot
  refine (takes_read _).bind fun v? => ?_
  cases v? with
  | some v => exact takes_pure v
  | none => exact (takes_read _).bind fun _ => takes_poison _ _

theorem takes_objectAt (index : Nat) :
    (objectAt index : Stacked M κ ω EngineError Ref).Takes 0 := by
  unfold objectAt
  refine (takes_slot index).bind fun v => ?_
  split
  · exact takes_pure _
  · exact takes_poison _ _

theorem takes_arrayAt (index : Nat) :
    (arrayAt index : Stacked M κ ω EngineError Ref).Takes 0 := by
  unfold arrayAt
  refine (takes_objectAt index).bind fun ref => (takes_read _).bind fun shape => ?_
  cases shape with
  | array => exact takes_pure ref
  | plain => exact takes_poison _ _
  | function => exact takes_poison _ _

theorem takeTop_of_pos (handler : Handler M κ ω) (s : Session M κ ω) (h : 0 < s.slots.size) :
    ∃ v, takeTop handler s = .ok v { s with slots := s.slots.take (s.slots.size - 1) } := by
  obtain ⟨v, hback⟩ := exists_back? h
  refine ⟨v, ?_⟩
  simp [takeTop, Stacked.read, bind_apply, hback]
  rfl

theorem takeTop_of_push {handler : Handler M κ ω} {s : Session M κ ω} {a : Array ScriptValue}
    {v : ScriptValue} (hs : s.slots = a.push v) :
    takeTop handler s = .ok v { s with slots := a } := by
  obtain ⟨w, slots, poison⟩ := s
  obtain rfl : slots = a.push v := hs
  simp only [takeTop, Stacked.read, Stacked.update, bind_apply, Array.back?_push, Array.pop_push]
  rfl

theorem takes_takeTop : (takeTop : Stacked M κ ω EngineError ScriptValue).Takes 1 := by
  intro handler s
  rcases Nat.eq_zero_or_pos s.slots.size with hempty | hpos
  · refine .inr ⟨"value stack underflow", ?_⟩
    simp [takeTop, Stacked.read, bind_apply, Array.eq_empty_of_size_eq_zero hempty, poison]
  · exact .inl ⟨hpos, takeTop_of_pos handler s hpos⟩

/-- The function, the receiver and the arguments of a call, taken off the stack. -/
def takeCall (count : Nat) :
    Stacked M κ ω EngineError (ScriptValue × ScriptValue × List ScriptValue) := do
  let n ← depth
  if n < count + 2 then poison s!"call with {count} arguments on a stack of depth {n}"
  let args ← .read fun s => (s.slots.drop (n - count)).toList
  .update fun s => { s with slots := s.slots.take (n - count) }
  let this ← takeTop
  let function ← takeTop
  pure (function, this, args)

/-- The call itself. -/
def callTaken (function this : ScriptValue) (args : List ScriptValue) :
    Stacked M κ ω EngineError Unit := do
  let callee? ← Stacked.read fun s => match function with
    | .object ref => if M.shape s.world.machine ref = .function then some ref else none
    | _ => none
  match callee? with
  | none =>
    pushError .typeError "not callable"
    .fail .thrown
  | some ref =>
    let v ← perform (M.call ref this args)
    pushValue v

theorem callMethod_eq (count : Nat) : (callMethod count : Stacked M κ ω EngineError Unit) =
    takeCall count >>= fun c => callTaken c.1 c.2.1 c.2.2 := by
  unfold callMethod takeCall
  simp only [bind_assoc]
  congr 1
  funext n
  split
  · rfl
  · simp only [bind_assoc, pure_bind]
    rfl

theorem takes_takeCall (count : Nat) :
    (takeCall count : Stacked M κ ω EngineError _).Takes (count + 2) := by
  intro handler s
  by_cases h : s.slots.size < count + 2
  · refine .inr ⟨s!"call with {count} arguments on a stack of depth {s.slots.size}", ?_⟩
    simp only [takeCall, depth, Stacked.read, bind_apply, if_pos h, poison]
  · let s₁ : Session M κ ω := { s with slots := s.slots.take (s.slots.size - count) }
    have hsize : s₁.slots.size = s.slots.size - count := by simp [s₁]
    obtain ⟨this, hthis⟩ := takeTop_of_pos handler s₁ (by omega)
    let s₂ : Session M κ ω := { s₁ with slots := s₁.slots.take (s₁.slots.size - 1) }
    have hsize₂ : s₂.slots.size = s.slots.size - count - 1 := by simp [s₂, hsize]
    obtain ⟨function, hfunction⟩ := takeTop_of_pos handler s₂ (by omega)
    refine .inl ⟨by omega, (function, this, (s.slots.drop (s.slots.size - count)).toList), ?_⟩
    have hslots : s₂.slots.take (s₂.slots.size - 1) =
        s.slots.take (s.slots.size - (count + 2)) := by
      rw [hsize₂]
      simp only [s₁, s₂, Array.take_eq_extract, Array.extract_extract, hsize]
      congr 1
      omega
    unfold takeCall depth
    simp only [Stacked.read, Stacked.update, bind_apply, if_neg h]
    rw [show takeTop handler _ = _ from hthis]
    simp only []
    rw [show takeTop handler _ = _ from hfunction]
    simp only [hslots]
    rfl

/-- What is taken off for a call is the function, the receiver and the arguments. -/
theorem takeCall_of_append {handler : Handler M κ ω} {s : Session M κ ω} {a : Array ScriptValue}
    {function this : ScriptValue} {xs : Array ScriptValue}
    (hs : s.slots = (a.push function).push this ++ xs) :
    takeCall xs.size handler s = .ok (function, this, xs.toList) { s with slots := a } := by
  have hbelow : s.slots.size - xs.size = ((a.push function).push this).size := by simp [hs]
  have henough : ¬ s.slots.size < xs.size + 2 := by
    simp only [hs, Array.size_append, Array.size_push]
    omega
  have hdrop : (s.slots.drop (s.slots.size - xs.size)).toList = xs.toList := by
    rw [hbelow, hs]
    simp
  have htake : s.slots.take (s.slots.size - xs.size) = (a.push function).push this := by
    rw [hbelow, hs]
    exact take_append_size _ xs
  unfold takeCall depth
  simp only [Stacked.read, Stacked.update, bind_apply, if_neg henough, hdrop, htake]
  rw [show takeTop handler _ = _ from takeTop_of_push rfl]
  simp only []
  rw [show takeTop handler _ = _ from takeTop_of_push rfl]
  rfl

/-! ## The second half of each primitive -/

theorem act_keepsStack (f : M.State → Act M.State α) :
    (act f : Stacked M κ ω ε (Except Failure α)).KeepsStack := by
  intro handler s
  rw [wp_act]
  split
  · exact ⟨rfl, rfl⟩
  · trivial
  · trivial

theorem recordTrace_keepsStack (failure : Failure) (ref : Ref) :
    (recordTrace failure ref : Stacked M κ ω ε Unit).KeepsStack := by
  unfold recordTrace
  refine (act_keepsStack _).bind fun has => ?_
  split
  · exact (keepsStack_read _).bind fun _ => (act_keepsStack _).bind fun _ => keepsStack_pure _
  · exact keepsStack_pure _

/-- A thrown value goes on top, whatever becomes of its trace. -/
theorem throwTraced_keeps (failure : Failure) (v : ScriptValue) (handler : Handler M κ ω)
    (s : Session M κ ω) :
    (throwTraced failure v : Stacked M κ ω EngineError α).wp handler
      ⟨fun _ _ => False, fun e s' => e = .thrown ∧ s'.poison = s.poison ∧
        s'.slots = s.slots.push v, fun _ _ => True⟩ s := by
  have hend (t : Session M κ ω) (ht : t.poison = s.poison ∧ t.slots = s.slots) :
      (pushValue v >>= fun _ => fail .thrown : Stacked M κ ω EngineError α).wp handler
        ⟨fun _ _ => False, fun e s' => e = .thrown ∧ s'.poison = s.poison ∧
          s'.slots = s.slots.push v, fun _ _ => True⟩ t :=
    ⟨rfl, ht.1, congrArg (·.push v) ht.2⟩
  unfold throwTraced
  split
  · rw [wp_bind, wp_read]
    dsimp only
    split
    · refine wp_bind_of (recordTrace_keepsStack failure _ handler s) (fun _ t ht => hend t ht)
        (fun _ _ h => h.elim) fun _ _ h => h
    · exact hend s ⟨rfl, rfl⟩
  · exact hend s ⟨rfl, rfl⟩

theorem raise_keeps (failure : Failure) (handler : Handler M κ ω) (s : Session M κ ω) :
    (raise failure : Stacked M κ ω EngineError α).wp handler
      ⟨fun _ _ => False, fun e s' => e = .thrown ∧ s'.poison = s.poison ∧
        s'.slots = s.slots.push (thrownIn failure s.world).1, fun _ _ => True⟩ s := by
  unfold wp
  rw [raise_eq, bind_eq_of_ok (thrownValue_eq failure)]
  exact throwTraced_keeps failure _ handler _

theorem puts_perform {f : M.State → Act M.State α} (hf : M.IsRun f) :
    (perform f : Stacked M κ ω EngineError α).Puts 0 := by
  intro handler s
  unfold wp
  cases hend : (f s.world.machine).drive handler s.world with
  | ended result w =>
    cases result with
    | ok a =>
      rw [perform_of_ok hend]
      exact ⟨rfl, #[], rfl, Array.append_empty.symm⟩
    | error failure =>
      unfold perform
      rw [bind_eq_of_ok (act_of_ended hend)]
      refine wp_mono (raise_keeps failure handler { s with world := w }) (fun _ _ h => h.elim) ?_
        fun _ _ h => h
      rintro _ s' ⟨rfl, hpoison, hslots⟩
      exact ⟨rfl, hpoison, _, .failed hf .here hend, hslots⟩
  | panicked payload w => simp only [perform, bind_apply, act, hend]
  | exhausted => simp only [perform, bind_apply, act, hend]

theorem puts_pushValue (v : ScriptValue) :
    (pushValue v : Stacked M κ ω EngineError Unit).Puts 1 :=
  fun _ _ => ⟨rfl, #[v], rfl, rfl⟩

theorem puts_enumerableKeys (ref : Ref) : ∀ keys : List Units,
    (enumerableKeys ref keys : Stacked M κ ω EngineError (List (List UInt8))).Puts 0
  | [] => puts_pure _
  | _ :: keys => (puts_perform (.isEnumerable _ _)).bind fun _ =>
      (puts_enumerableKeys ref keys).bind fun _ => puts_pure _

theorem puts_callTaken (function this : ScriptValue) (args : List ScriptValue) :
    (callTaken function this args : Stacked M κ ω EngineError Unit).Puts 1 := by
  unfold callTaken
  refine Puts.bind (fun _ _ => ⟨rfl, #[], rfl, Array.append_empty.symm⟩) fun callee? => ?_
  cases callee? with
  | none =>
    exact fun handler s => ⟨rfl, rfl, _, .notCallable (.first .here), rfl⟩
  | some ref => exact (puts_perform (.call _ _ _)).bind puts_pushValue

/-! ## The law -/

/-- The primitives that can fail, with their operands. -/
inductive Fallible
  | pop
  | dup (index : Nat)
  | append (index : Nat)
  | putProp (index : Nat) (key : List UInt8)
  | putGlobal (name : List UInt8)
  | arrayLength (index : Nat)
  | ownKeys (index : Nat)
  | getIndex (index element : Nat)
  | getProp (index : Nat) (key : List UInt8)
  | runSource (source : List UInt8) (filename : String)
  | callMethod (count : Nat)

namespace Fallible

/-- What it answers with. -/
def Answer : Fallible → Type
  | arrayLength _ => Nat
  | ownKeys _ => List (List UInt8)
  | getProp _ _ => Bool
  | _ => Unit

def program : (p : Fallible) → Stacked M κ ω EngineError p.Answer
  | pop => Stack.pop
  | dup index => Stack.dup index
  | append index => Stack.append index
  | putProp index key => Stack.putProp index key
  | putGlobal name => Stack.putGlobal name
  | arrayLength index => Stack.arrayLength index
  | ownKeys index => Stack.ownKeys index
  | getIndex index element => Stack.getIndex index element
  | getProp index key => Stack.getProp index key
  | runSource source filename => Stack.runSource source filename
  | callMethod count => Stack.callMethod count

/-- How many values it takes off the stack. -/
def pops : Fallible → Nat
  | pop | append _ | putProp _ _ | putGlobal _ => 1
  | callMethod count => count + 2
  | dup _ | arrayLength _ | ownKeys _ | getIndex _ _ | getProp _ _ | runSource _ _ => 0

/-- How many values it leaves there. -/
def pushes : Fallible → Nat
  | dup _ | getIndex _ _ | getProp _ _ | runSource _ _ | callMethod _ => 1
  | pop | append _ | putProp _ _ | putGlobal _ | arrayLength _ | ownKeys _ => 0

theorem balanced (p : Fallible) :
    (p.program : Stacked M κ ω EngineError p.Answer).Balanced p.pops p.pushes := by
  cases p with
  | pop => exact takes_takeTop.balanced fun _ => puts_pure _
  | dup index => exact (takes_slot index).balanced puts_pushValue
  | append index =>
    exact (takes_arrayAt index).before fun ref =>
      takes_takeTop.balanced fun v => puts_perform (.append ref v)
  | putProp index key =>
    exact (takes_objectAt index).before fun ref =>
      takes_takeTop.balanced fun v => puts_perform (.define ref _ v)
  | putGlobal name => exact takes_takeTop.balanced fun v => puts_perform (.setGlobal _ v)
  | arrayLength index => exact (takes_arrayAt index).balanced fun ref => puts_perform (.length ref)
  | ownKeys index =>
    exact (takes_objectAt index).balanced fun ref =>
      (puts_perform (.keys ref)).bind (puts_enumerableKeys ref)
  | getIndex index element =>
    exact (takes_objectAt index).balanced fun ref =>
      (puts_perform (.element ref element)).bind puts_pushValue
  | getProp index key =>
    exact (takes_slot index).balanced fun base =>
      (puts_perform (.toObject base)).bind fun ref => (puts_perform (.has ref _)).bind fun found =>
      (puts_perform (.get ref _)).bind fun v => (puts_pushValue v).map fun _ => found
  | runSource source filename =>
    exact ((puts_perform (.run source filename)).bind puts_pushValue).balanced
  | callMethod count =>
    show (Stack.callMethod count).Balanced _ _
    rw [callMethod_eq]
    exact (takes_takeCall count).balanced fun c => puts_callTaken _ _ _

end Fallible

/-- Printing a slot runs script, and nothing of that shows on the stack. -/
theorem displayText_keepsStack (index : Nat) :
    (displayText index : Stacked M κ ω ε (Option (List UInt8))).KeepsStack := by
  unfold displayText
  refine (keepsStack_read _).bind fun v? => ?_
  cases v? with
  | none => exact keepsStack_pure _
  | some v =>
    refine (act_keepsStack _).bind fun result => ?_
    cases result with
    | ok text => exact keepsStack_pure _
    | error failure => exact keepsStack_pure _

/-- **What goes off the stack and what goes on**, for every primitive that can fail, on a stack of
any depth and whatever the machine and the host functions do.  If it ends normally, it has taken
`pops` values and left `pushes`.  If script has thrown, it has taken as many and left the thrown
value.  If it fails for good, the session is as before, but for the poison.  Under the operands
nothing changes.  To print a slot is never a failure and changes no slot, and throwing makes no
difference to that. -/
theorem primitives_balanced :
    (∀ p : Fallible, (p.program : Stacked M κ ω EngineError p.Answer).Balanced p.pops p.pushes) ∧
    ∀ index, (displayText index : Stacked M κ ω ε (Option (List UInt8))).KeepsStack :=
  ⟨Fallible.balanced, displayText_keepsStack⟩

/-- A call of what is not a function takes the receiver and the argument with it. -/
example : ∃ t : Session Machine.silent Unit Unit,
    (callMethod 1 : Stacked Machine.silent Unit Unit EngineError Unit) (fun _ _ _ _ => .exhausted)
      ⟨⟨[], #[], ()⟩, #[.boolean true, .null, .undefined, .boolean false], none⟩ =
        .error .thrown t ∧
    t.slots = #[.boolean true, .object 0] :=
  ⟨_, rfl, rfl⟩

end Stack

end ScriptHost
