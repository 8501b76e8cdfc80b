import ScriptHost.Proofs.Machine.Trust
import ScriptHost.Proofs.Stack.Logic
import ScriptHost.Stack.Primitive

/-!
# What the primitives do to the stack

The machine may run any script in the middle of a primitive.  All that is relied on is `Trust`.
Then every primitive, used on slots that are there, leaves exactly the slots that it says and does
not poison the stack.

`s.Becomes slots s'` says how the session `s'` has come from `s`: it holds `slots`, and neither the
poison nor any array was lost on the way.  Each lemma takes the session `s₁` in which its primitive
starts together with the session `s` to which the whole is compared, so that the lemmas chain.

* runs of the machine: `perform_spec`, `act_spec`;
* primitives: `getProp_spec`, `append_spec`, `callMethod_spec`, …
-/

namespace ScriptHost

variable {M : Machine} {κ ω ε α β : Type}

/-! ## How a session has come about -/

/-- The session `s'` has come from `s` and holds `slots`. -/
structure Session.Becomes (s : Session M κ ω) (slots : Array ScriptValue) (s' : Session M κ ω) :
    Prop where
  slots : s'.slots = slots
  poison : s'.poison = s.poison
  later : M.Later s.world.machine s'.world.machine

theorem Session.Becomes.refl (s : Session M κ ω) : s.Becomes s.slots s := ⟨rfl, rfl, .refl _⟩

theorem Session.Becomes.trans {s s₁ s₂ : Session M κ ω} {a b : Array ScriptValue}
    (h : s.Becomes a s₁) (h' : s₁.Becomes b s₂) : s.Becomes b s₂ :=
  ⟨h'.slots, h'.poison.trans h.poison, h.later.trans h'.later⟩

theorem Session.Becomes.setSlots {s s₁ : Session M κ ω} {a : Array ScriptValue} (h : s.Becomes a s₁)
    (b : Array ScriptValue) : s.Becomes b { s₁ with slots := b } := ⟨rfl, h.poison, h.later⟩

theorem Session.Becomes.setWorld {s s₁ : Session M κ ω} {a : Array ScriptValue} (h : s.Becomes a s₁)
    {w : World M κ ω} (hw : M.Later s₁.world.machine w.machine) :
    s.Becomes a { s₁ with world := w } := ⟨h.slots, h.poison, h.later.trans hw⟩

theorem Session.Becomes.shape {s s₁ : Session M κ ω} {a : Array ScriptValue} (h : s.Becomes a s₁)
    {ref : Ref} (hr : M.shape s.world.machine ref = .array) :
    M.shape s₁.world.machine ref = .array := h.later ref hr

/-- Success as `ok` says, or a thrown value on top of `base`. -/
def orThrown (s : Session M κ ω) (base : Array ScriptValue)
    (broken : Payload → World M κ ω → Prop) (ok : α → Session M κ ω → Prop) :
    Post M κ ω EngineError α :=
  ⟨ok, fun e s' => e = .thrown ∧ ∃ v, s.Becomes (base.push v) s', broken⟩

namespace Stack

open Stacked

variable {handler : Handler M κ ω} {broken : Payload → World M κ ω → Prop}
  {s s₁ : Session M κ ω} {a : Array ScriptValue}

theorem take_append_size (a more : Array ScriptValue) : (a ++ more).take a.size = a := by
  apply Array.ext'
  simp

theorem exists_back? (ha : 0 < a.size) : ∃ v, a.back? = some v :=
  ⟨a[a.size - 1], by rw [Array.back?]; exact Array.getElem?_eq_getElem (by omega)⟩

theorem exists_back?_of_getElem? {index : Nat} {v : ScriptValue} (hv : a[index]? = some v) :
    ∃ v, a.back? = some v := by
  obtain ⟨hi, -⟩ := Array.getElem?_eq_some_iff.mp hv
  exact exists_back? (by omega)

/-! ## Runs of the machine -/

/-- A run leaves the slots alone, whether it fails or not. -/
theorem act_spec (T : Trust handler broken) (hs : s.Becomes a s₁) {f : M.State → Act M.State α}
    (hf : M.IsRun f) {E : ε → Session M κ ω → Prop} :
    (act f : Stacked M κ ω ε (Except Failure α)).wp handler
      ⟨fun _ => s.Becomes a, E, broken⟩ s₁ := by
  rw [wp_act]
  have h := T.runs hf s₁.world
  cases hd : (f s₁.world.machine).drive handler s₁.world with
  | ended result w =>
    rw [hd] at h
    exact hs.setWorld h
  | panicked payload w =>
    rw [hd] at h
    exact h
  | exhausted => trivial

theorem make_spec (T : Trust handler broken) (hs : s.Becomes a s₁) {f : M.State → Ref × M.State}
    (hf : M.IsMaking f) {E : ε → Session M κ ω → Prop} :
    (make f : Stacked M κ ω ε Ref).wp handler ⟨fun _ => s.Becomes a, E, broken⟩ s₁ := by
  rw [wp_make]
  exact hs.setWorld (T.makes hf _)

theorem pushValue_spec (hs : s.Becomes a s₁) (v : ScriptValue) {E : ε → Session M κ ω → Prop} :
    (pushValue v : Stacked M κ ω ε Unit).wp handler
      ⟨fun _ => s.Becomes (a.push v), E, broken⟩ s₁ := by
  have h := hs.setSlots (a.push v)
  rw [← hs.slots] at h ⊢
  exact h

theorem thrownValue_spec (T : Trust handler broken) (hs : s.Becomes a s₁) (failure : Failure)
    {E : ε → Session M κ ω → Prop} :
    (thrownValue failure : Stacked M κ ω ε ScriptValue).wp handler
      ⟨fun _ => s.Becomes a, E, broken⟩ s₁ := by
  unfold thrownValue
  cases failure.cause with
  | value v => exact hs
  | limit message => exact wp_then (make_spec T hs (.newError _ _)) fun _ _ h₂ => h₂

theorem recordTrace_spec (T : Trust handler broken) (hs : s.Becomes a s₁) (failure : Failure)
    (ref : Ref) {E : ε → Session M κ ω → Prop} :
    (recordTrace failure ref : Stacked M κ ω ε Unit).wp handler
      ⟨fun _ => s.Becomes a, E, broken⟩ s₁ := by
  unfold recordTrace
  refine wp_then (act_spec T hs (.hasOwn _ _)) fun has s₂ h₂ => ?_
  split
  · simp only [wp_bind, wp_read]
    exact act_spec T h₂ (.defineHidden _ _ _)
  · exact h₂

/-- A failure of the machine ends up on top of the stack. -/
theorem raise_spec (T : Trust handler broken) (hs : s.Becomes a s₁) (failure : Failure)
    {P : α → Session M κ ω → Prop} :
    (raise failure : Stacked M κ ω EngineError α).wp handler (orThrown s a broken P) s₁ := by
  have hend : ∀ (v : ScriptValue) (s₂ : Session M κ ω), s.Becomes a s₂ →
      (pushValue v >>= fun _ => fail .thrown : Stacked M κ ω EngineError α).wp handler
        (orThrown s a broken P) s₂ :=
    fun v s₂ h₂ => wp_then (pushValue_spec h₂ v) fun _ _ h₃ => ⟨rfl, v, h₃⟩
  unfold raise
  refine wp_then (thrownValue_spec T hs failure) fun v s₂ h₂ => ?_
  dsimp only
  split
  · rw [wp_bind, wp_read]
    dsimp only
    split
    · exact wp_then (recordTrace_spec T h₂ failure _) fun _ s₃ h₃ => hend _ s₃ h₃
    · exact hend _ s₂ h₂
  · exact hend _ s₂ h₂

theorem perform_spec (T : Trust handler broken) (hs : s.Becomes a s₁) {f : M.State → Act M.State α}
    (hf : M.IsRun f) :
    (perform f : Stacked M κ ω EngineError α).wp handler
      (orThrown s a broken fun _ => s.Becomes a) s₁ := by
  unfold perform
  refine wp_then (act_spec T hs hf) fun result s₂ h₂ => ?_
  cases result with
  | ok value => exact h₂
  | error failure => exact raise_spec T h₂ failure

/-! ## Depth -/

theorem depth_spec (hs : s.Becomes a s₁) {E : ε → Session M κ ω → Prop} :
    (depth : Stacked M κ ω ε Nat).wp handler
      ⟨fun n s' => n = a.size ∧ s.Becomes a s', E, broken⟩ s₁ :=
  ⟨congrArg Array.size hs.slots, hs⟩

theorem setDepth_spec (hs : s.Becomes a s₁) (hp : s.poison = none) {n : Nat} (hn : n ≤ a.size)
    {E : ε → Session M κ ω → Prop} :
    (setDepth n : Stacked M κ ω ε Unit).wp handler
      ⟨fun _ => s.Becomes (a.take n), E, broken⟩ s₁ := by
  have hp₁ : s₁.poison.isSome = false := by rw [hs.poison, hp]; rfl
  have hn₁ : ¬ s₁.slots.size < n := by rw [hs.slots]; omega
  have h := hs.setSlots (a.take n)
  unfold setDepth
  rw [wp_update, if_neg (by simp [hp₁]), if_neg hn₁, hs.slots]
  exact h

theorem slot_spec (hs : s.Becomes a s₁) {index : Nat} {v : ScriptValue} (hv : a[index]? = some v)
    {E : EngineError → Session M κ ω → Prop} :
    (slot index : Stacked M κ ω EngineError ScriptValue).wp handler
      ⟨fun u s' => u = v ∧ s.Becomes a s', E, broken⟩ s₁ := by
  unfold slot
  simp only [wp_bind, wp_read]
  rw [hs.slots, hv]
  exact ⟨rfl, hs⟩

theorem takeTop_spec (hs : s.Becomes a s₁) {v : ScriptValue} (hv : a.back? = some v)
    {E : EngineError → Session M κ ω → Prop} :
    (takeTop : Stacked M κ ω EngineError ScriptValue).wp handler
      ⟨fun u s' => u = v ∧ s.Becomes a.pop s', E, broken⟩ s₁ := by
  have h := hs.setSlots a.pop
  unfold takeTop
  simp only [wp_bind, wp_read]
  rw [hs.slots, hv]
  simp only [wp_bind, wp_update, wp_pure]
  rw [hs.slots]
  exact ⟨trivial, h⟩

theorem objectAt_spec (hs : s.Becomes a s₁) {index : Nat} {ref : Ref}
    (hv : a[index]? = some (.object ref)) {E : EngineError → Session M κ ω → Prop} :
    (objectAt index : Stacked M κ ω EngineError Ref).wp handler
      ⟨fun r s' => r = ref ∧ s.Becomes a s', E, broken⟩ s₁ := by
  unfold objectAt
  refine wp_then (slot_spec hs hv) ?_
  rintro _ s₂ ⟨rfl, h₂⟩
  exact ⟨rfl, h₂⟩

theorem arrayAt_spec (hs : s.Becomes a s₁) {index : Nat} {ref : Ref}
    (hv : a[index]? = some (.object ref)) (hr : M.shape s₁.world.machine ref = .array)
    {E : EngineError → Session M κ ω → Prop} :
    (arrayAt index : Stacked M κ ω EngineError Ref).wp handler
      ⟨fun r s' => r = ref ∧ s.Becomes a s', E, broken⟩ s₁ := by
  unfold arrayAt objectAt slot
  simp only [wp_bind, wp_read]
  rw [hs.slots, hv]
  simp only [wp_pure, hr]
  exact ⟨trivial, hs⟩

theorem dup_spec (hs : s.Becomes a s₁) {index : Nat} (hi : index < a.size)
    {E : EngineError → Session M κ ω → Prop} :
    (dup index : Stacked M κ ω EngineError Unit).wp handler
      ⟨fun _ s' => ∃ v, s.Becomes (a.push v) s', E, broken⟩ s₁ := by
  unfold dup
  refine wp_then (slot_spec hs (Array.getElem?_eq_getElem hi)) ?_
  rintro v s₂ ⟨-, h₂⟩
  exact wp_imp (pushValue_spec h₂ v) fun _ _ h₃ => ⟨v, h₃⟩

theorem pop_spec (hs : s.Becomes a s₁) (ha : 0 < a.size)
    {E : EngineError → Session M κ ω → Prop} :
    (pop : Stacked M κ ω EngineError Unit).wp handler
      ⟨fun _ => s.Becomes a.pop, E, broken⟩ s₁ := by
  obtain ⟨v, hv⟩ := exists_back? ha
  exact wp_then (takeTop_spec hs hv) fun _ _ h => h.2

/-! ## Pushing -/

theorem pushArray_spec (T : Trust handler broken) (hs : s.Becomes a s₁)
    {E : ε → Session M κ ω → Prop} :
    (pushArray : Stacked M κ ω ε Nat).wp handler
      ⟨fun index s' => index = a.size ∧ ∃ ref, s.Becomes (a.push (.object ref)) s' ∧
        M.shape s'.world.machine ref = .array, E, broken⟩ s₁ := by
  unfold pushArray depth pushValue
  simp only [wp_bind, wp_read, wp_make, wp_update, wp_pure]
  refine ⟨by rw [hs.slots], (M.newArray s₁.world.machine).1, ?_, T.newArray _⟩
  rw [← hs.slots]
  exact (hs.setWorld (T.makes .newArray _)).setSlots _

theorem pushObject_spec (T : Trust handler broken) (hs : s.Becomes a s₁)
    {E : ε → Session M κ ω → Prop} :
    (pushObject : Stacked M κ ω ε Nat).wp handler
      ⟨fun index s' => index = a.size ∧ ∃ ref, s.Becomes (a.push (.object ref)) s', E, broken⟩
      s₁ := by
  unfold pushObject depth pushValue
  simp only [wp_bind, wp_read, wp_make, wp_update, wp_pure]
  refine ⟨by rw [hs.slots], (M.newObject s₁.world.machine).1, ?_⟩
  rw [← hs.slots]
  exact (hs.setWorld (T.makes .newObject _)).setSlots _

theorem pushGlobal_spec (hs : s.Becomes a s₁) {E : ε → Session M κ ω → Prop} :
    (pushGlobal : Stacked M κ ω ε Unit).wp handler
      ⟨fun _ s' => ∃ v, s.Becomes (a.push v) s', E, broken⟩ s₁ := by
  unfold pushGlobal
  simp only [wp_bind, wp_read]
  exact wp_imp (pushValue_spec hs _) fun _ _ h => ⟨_, h⟩

theorem pushError_spec (T : Trust handler broken) (hs : s.Becomes a s₁) (kind : ErrorKind)
    (message : String) {E : ε → Session M κ ω → Prop} :
    (pushError kind message : Stacked M κ ω ε Unit).wp handler
      ⟨fun _ s' => ∃ v, s.Becomes (a.push v) s', E, broken⟩ s₁ := by
  unfold pushError
  refine wp_then (make_spec T hs (.newError _ _)) fun ref s₂ h₂ => ?_
  exact wp_imp (pushValue_spec h₂ _) fun _ _ h => ⟨_, h⟩

theorem pushNative_spec (T : Trust handler broken) (hs : s.Becomes a s₁) (name : String) (body : κ)
    {E : ε → Session M κ ω → Prop} :
    (pushNative name body : Stacked M κ ω ε Unit).wp handler
      ⟨fun _ s' => ∃ v, s.Becomes (a.push v) s', E, broken⟩ s₁ := by
  unfold pushNative
  simp only [wp_bind, wp_read, wp_update, wp_make]
  have h₂ := hs.setWorld (w := { s₁.world with natives := s₁.world.natives.push body }) (.refl _)
  exact wp_imp (pushValue_spec (h₂.setWorld (T.makes (.newNative _ _) _)) _) fun _ _ h => ⟨_, h⟩

theorem append_spec (T : Trust handler broken) (hs : s.Becomes a s₁) {index : Nat} {ref : Ref}
    (hv : a[index]? = some (.object ref)) (hr : M.shape s₁.world.machine ref = .array) :
    (append index : Stacked M κ ω EngineError Unit).wp handler
      (orThrown s a.pop broken fun _ => s.Becomes a.pop) s₁ := by
  obtain ⟨v, hback⟩ := exists_back?_of_getElem? hv
  unfold append
  refine wp_then (arrayAt_spec hs hv hr) fun _ s₂ h₂ => ?_
  refine wp_then (takeTop_spec h₂.2 hback) fun u s₃ h₃ => ?_
  exact perform_spec T h₃.2 (.append _ _)

theorem putProp_spec (T : Trust handler broken) (hs : s.Becomes a s₁) {index : Nat} {ref : Ref}
    (hv : a[index]? = some (.object ref)) (key : List UInt8) :
    (putProp index key : Stacked M κ ω EngineError Unit).wp handler
      (orThrown s a.pop broken fun _ => s.Becomes a.pop) s₁ := by
  obtain ⟨v, hback⟩ := exists_back?_of_getElem? hv
  unfold putProp
  refine wp_then (objectAt_spec hs hv) fun _ s₂ h₂ => ?_
  refine wp_then (takeTop_spec h₂.2 hback) fun u s₃ h₃ => ?_
  exact perform_spec T h₃.2 (.define _ _ _)

theorem putGlobal_spec (T : Trust handler broken) (hs : s.Becomes a s₁) (ha : 0 < a.size)
    (name : List UInt8) :
    (putGlobal name : Stacked M κ ω EngineError Unit).wp handler
      (orThrown s a.pop broken fun _ => s.Becomes a.pop) s₁ := by
  obtain ⟨v, hv⟩ := exists_back? ha
  unfold putGlobal
  refine wp_then (takeTop_spec hs hv) fun u s₂ h₂ => ?_
  exact perform_spec T h₂.2 (.setGlobal _ _)

/-! ## Inspection -/

theorem slotType_spec (hs : s.Becomes a s₁) {index : Nat} {v : ScriptValue}
    (hv : a[index]? = some v) {E : ε → Session M κ ω → Prop} :
    (slotType index : Stacked M κ ω ε SlotType).wp handler
      ⟨fun t s' => t = SlotType.ofValue (M.shape s'.world.machine) v ∧ s.Becomes a s', E, broken⟩
      s₁ := by
  unfold slotType
  rw [wp_read, hs.slots, hv]
  exact ⟨rfl, hs⟩

/-- Printing a slot may run script, and leaves the slots alone even if that throws. -/
theorem displayText_spec (T : Trust handler broken) (hs : s.Becomes a s₁) (index : Nat)
    {E : ε → Session M κ ω → Prop} :
    (displayText index : Stacked M κ ω ε (Option (List UInt8))).wp handler
      ⟨fun _ => s.Becomes a, E, broken⟩ s₁ := by
  unfold displayText
  simp only [wp_bind, wp_read]
  split
  · exact hs
  · refine wp_then (act_spec T hs (.toText _)) fun result s₂ h₂ => ?_
    cases result with
    | ok text => exact h₂
    | error failure => exact h₂

theorem arrayLength_spec (T : Trust handler broken) (hs : s.Becomes a s₁) {index : Nat} {ref : Ref}
    (hv : a[index]? = some (.object ref)) (hr : M.shape s₁.world.machine ref = .array) :
    (arrayLength index : Stacked M κ ω EngineError Nat).wp handler
      (orThrown s a broken fun _ => s.Becomes a) s₁ := by
  unfold arrayLength
  refine wp_then (arrayAt_spec hs hv hr) fun _ s₂ h₂ => ?_
  exact perform_spec T h₂.2 (.length _)

theorem getIndex_spec (T : Trust handler broken) (hs : s.Becomes a s₁) {index : Nat} {ref : Ref}
    (hv : a[index]? = some (.object ref)) (element : Nat) :
    (getIndex index element : Stacked M κ ω EngineError Unit).wp handler
      (orThrown s a broken fun _ s' => ∃ v, s.Becomes (a.push v) s') s₁ := by
  unfold getIndex
  refine wp_then (objectAt_spec hs hv) fun _ s₂ h₂ => ?_
  refine wp_then (perform_spec T h₂.2 (.element _ _)) fun v s₃ h₃ => ?_
  exact wp_imp (pushValue_spec h₃ v) fun _ _ h => ⟨v, h⟩

theorem enumerableKeys_spec (T : Trust handler broken) (ref : Ref) (keys : List Units)
    {s₁ : Session M κ ω} (hs : s.Becomes a s₁) :
    (enumerableKeys ref keys : Stacked M κ ω EngineError (List (List UInt8))).wp handler
      (orThrown s a broken fun _ => s.Becomes a) s₁ := by
  induction keys generalizing s₁ with
  | nil => exact hs
  | cons key rest ih =>
    unfold enumerableKeys
    refine wp_then (perform_spec T hs (.isEnumerable _ _)) fun shown s₂ h₂ => ?_
    exact wp_then (ih h₂) fun _ _ h₃ => h₃

theorem ownKeys_spec (T : Trust handler broken) (hs : s.Becomes a s₁) {index : Nat} {ref : Ref}
    (hv : a[index]? = some (.object ref)) :
    (ownKeys index : Stacked M κ ω EngineError (List (List UInt8))).wp handler
      (orThrown s a broken fun _ => s.Becomes a) s₁ := by
  unfold ownKeys
  refine wp_then (objectAt_spec hs hv) fun _ s₂ h₂ => ?_
  refine wp_then (perform_spec T h₂.2 (.keys _)) fun keys s₃ h₃ => ?_
  exact enumerableKeys_spec T _ keys h₃

theorem getProp_spec (T : Trust handler broken) (hs : s.Becomes a s₁) {index : Nat}
    (hi : index < a.size) (key : List UInt8) :
    (getProp index key : Stacked M κ ω EngineError Bool).wp handler
      (orThrown s a broken fun _ s' => ∃ v, s.Becomes (a.push v) s') s₁ := by
  unfold getProp
  refine wp_then (slot_spec hs (Array.getElem?_eq_getElem hi)) fun base s₂ h₂ => ?_
  refine wp_then (perform_spec T h₂.2 (.toObject _)) fun ref s₃ h₃ => ?_
  refine wp_then (perform_spec T h₃ (.has _ _)) fun found s₄ h₄ => ?_
  refine wp_then (perform_spec T h₄ (.get _ _)) fun v s₅ h₅ => ?_
  exact wp_then (pushValue_spec h₅ v) fun _ _ h₆ => ⟨v, h₆⟩

/-! ## Running -/

theorem runSource_spec (T : Trust handler broken) (hs : s.Becomes a s₁) (source : List UInt8)
    (filename : String) :
    (runSource source filename : Stacked M κ ω EngineError Unit).wp handler
      (orThrown s a broken fun _ s' => ∃ v, s.Becomes (a.push v) s') s₁ := by
  unfold runSource
  refine wp_then (perform_spec T hs (.run _ _)) fun v s₂ h₂ => ?_
  exact wp_imp (pushValue_spec h₂ v) fun _ _ h => ⟨v, h⟩

theorem pop_take {n : Nat} (hn : n < a.size) : (a.take (n + 1)).pop = a.take n := by
  apply Array.ext
  · simp only [Array.size_pop, Array.take_eq_extract, Array.size_extract]
    omega
  · intro i hi hi'
    simp

/-- The function, the receiver and the arguments give way to the result, or to what was thrown. -/
theorem callMethod_spec (T : Trust handler broken) (hs : s.Becomes a s₁) {rest count : Nat}
    (ha : a.size = rest + 2 + count) :
    (callMethod count : Stacked M κ ω EngineError Unit).wp handler
      (orThrown s (a.take rest) broken fun _ s' => ∃ v, s.Becomes ((a.take rest).push v) s')
      s₁ := by
  have hkeep : a.size - count = rest + 1 + 1 := by omega
  obtain ⟨this, hthis⟩ := exists_back? (a := a.take (rest + 1 + 1)) (by simp; omega)
  obtain ⟨function, hfunction⟩ := exists_back? (a := a.take (rest + 1)) (by simp; omega)
  unfold callMethod depth
  simp only [wp_bind, wp_read]
  rw [hs.slots, if_neg (by omega)]
  simp only [wp_bind, wp_read, wp_update]
  rw [hs.slots, hkeep]
  refine wp_imp (takeTop_spec (hs.setSlots _) hthis) fun _ s₂ h₂ => ?_
  rw [pop_take (by omega)] at h₂
  refine wp_imp (takeTop_spec h₂.2 hfunction) fun _ s₃ h₃ => ?_
  rw [pop_take (by omega)] at h₃
  dsimp only
  split
  · refine wp_then (pushError_spec T h₃.2 _ _) fun _ s₄ h₄ => ⟨rfl, h₄⟩
  · refine wp_then (perform_spec T h₃.2 (.call _ _ _)) fun v s₄ h₄ => ?_
    exact wp_imp (pushValue_spec h₄ v) fun _ _ h => ⟨v, h⟩

end Stack

end ScriptHost
