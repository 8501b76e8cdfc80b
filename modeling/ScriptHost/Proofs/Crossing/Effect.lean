import ScriptHost.Proofs.Crossing.Assembled
import ScriptHost.Proofs.Stack.Effect

/-!
# What the crossing does to the stack

Under `Trust`, and on a stack that is not poisoned, the programs of the crossing neither poison the
stack nor fail for good, whatever script does and whatever is thrown.  Each lemma says in addition
what is left of the slots: a failure may leave more than there was (`Session.Extends`), and never
less.

* thrown values: `check_spec`;
* conversions: `push_spec`, `pop_spec`;
* paths and calls: `resolve_spec`, `callWith_spec`.
-/

namespace ScriptHost

/-- The session `s'` has come from `s` and holds `slots`, perhaps with more on top. -/
def Session.Extends {M : Machine} {κ ω : Type} (s : Session M κ ω) (slots : Array ScriptValue)
    (s' : Session M κ ω) : Prop := ∃ more, s.Becomes (slots ++ more) s'

namespace Crossing

open Stack Stacked

variable {M : Machine} {δ ε α β : Type}

/-- Success as `ok` says, or an error that is not fatal, and then `left`. -/
def orFails (left : Session M BoundFunction (HostState δ) → Prop)
    (broken : Payload → World M BoundFunction (HostState δ) → Prop)
    (ok : α → Session M BoundFunction (HostState δ) → Prop) :
    Post M BoundFunction (HostState δ) Error α :=
  ⟨ok, fun e s' => e.isFatal = false ∧ left s', broken⟩

variable {handler : Handler M BoundFunction (HostState δ)}
  {broken : Payload → World M BoundFunction (HostState δ) → Prop}
  {s s₁ : Session M BoundFunction (HostState δ)} {a : Array ScriptValue}

theorem extends_of_becomes (h : s.Becomes a s₁) : s.Extends a s₁ := ⟨#[], by simpa using h⟩

theorem extends_trans {s₂ : Session M BoundFunction (HostState δ)} {b : Array ScriptValue}
    (h : s.Becomes a s₁) (h' : s₁.Extends b s₂) : s.Extends b s₂ := by
  obtain ⟨more, hm⟩ := h'
  exact ⟨more, h.trans hm⟩

theorem extends_of_append {more : Array ScriptValue} (h : s.Extends (a ++ more) s₁) :
    s.Extends a s₁ := by
  obtain ⟨rest, hr⟩ := h
  exact ⟨more ++ rest, by rwa [← Array.append_assoc]⟩

theorem extends_of_push {v : ScriptValue} (h : s.Extends (a.push v) s₁) : s.Extends a s₁ :=
  @extends_of_append _ _ _ _ a #[v] (by simpa using h)

theorem setDepth_of_extends (h : s.Extends a s₁) (hp : s.poison = none)
    {E : ε → Session M BoundFunction (HostState δ) → Prop} :
    (setDepth a.size : Crossing M δ ε Unit).wp handler ⟨fun _ => s.Becomes a, E, broken⟩ s₁ := by
  obtain ⟨more, hm⟩ := h
  have hset : (setDepth a.size : Crossing M δ ε Unit).wp handler
      ⟨fun _ => s.Becomes ((a ++ more).take a.size), E, broken⟩ s₁ := setDepth_spec hm hp (by simp)
  rwa [take_append_size] at hset

/-- Work that is carried out to its end or its failure, the depth restored behind it. -/
theorem attempt_spec {x : Crossing M δ Error α} {f : Except Error α → Crossing M δ ε β}
    {Q : Post M BoundFunction (HostState δ) ε β}
    (hx : x.wp handler (orFails (s.Extends a) Q.panicked fun _ => s.Extends a) s₁)
    (hp : s.poison = none)
    (hf : ∀ result s', (∀ e, result = .error e → e.isFatal = false) → s.Becomes a s' →
      (f result).wp handler Q s') :
    (x.attempt >>= fun result => setDepth a.size >>= fun _ => f result).wp handler Q s₁ := by
  rw [wp_bind, wp_attempt]
  refine wp_mono hx (fun r s₂ h₂ => ?_) (fun e s₂ h₂ => ?_) fun _ _ h => h
  · exact wp_then (setDepth_of_extends h₂ hp) fun _ s₃ h₃ => hf _ s₃ (by simp) h₃
  · refine wp_then (setDepth_of_extends h₂.2 hp) fun _ s₃ h₃ => hf _ s₃ ?_ h₃
    rintro _ ⟨rfl⟩
    exact h₂.1

/-! ## Thrown values -/

/-- A property is read off the value in a slot as text, whatever that takes. -/
theorem textProp_spec (T : Trust handler broken) (hs : s.Becomes a s₁) (hp : s.poison = none)
    {index : Nat} (hi : index < a.size) (key : String)
    {E : ε → Session M BoundFunction (HostState δ) → Prop} :
    (textProp index key : Crossing M δ ε (Option String)).wp handler
      ⟨fun _ => s.Becomes a, E, broken⟩ s₁ := by
  have hend (text : Option (List UInt8)) {s₂ : Session M BoundFunction (HostState δ)}
      {v : ScriptValue} (h₂ : s.Becomes (a.push v) s₂) : (setDepth a.size >>= fun _ =>
        pure (text.map Text.fromEngineTextLossy) : Crossing M δ ε (Option String)).wp handler
          ⟨fun _ => s.Becomes a, E, broken⟩ s₂ :=
    wp_then (setDepth_of_extends (extends_of_push (extends_of_becomes h₂)) hp) fun _ _ h₃ => h₃
  unfold textProp depth
  simp only [wp_bind, wp_read, wp_attempt, hs.slots]
  refine wp_mono (getProp_spec T hs hi (Text.utf8 key)) ?_ ?_ fun _ _ h => h
  · rintro found s₂ ⟨v, h₂⟩
    dsimp only
    refine wp_imp (slotType_spec h₂ Array.getElem?_push_size) fun kind s₃ h₃ => ?_
    dsimp only
    split
    · exact hend none h₃.2
    · exact wp_then (displayText_spec T h₃.2 a.size) fun text s₄ h₄ => hend text h₄
  · rintro e s₂ ⟨-, v, h₂⟩
    exact hend none h₂

/-- A thrown value is read, whatever it is. -/
theorem readThrown_spec (T : Trust handler broken) (hs : s.Becomes a s₁) (hp : s.poison = none)
    {index : Nat} (hi : index < a.size) {E : ε → Session M BoundFunction (HostState δ) → Prop} :
    (readThrown index : Crossing M δ ε Error).wp handler ⟨fun _ => s.Becomes a, E, broken⟩ s₁ := by
  have htext (kind : SlotType) (key : String) {s₂ : Session M BoundFunction (HostState δ)}
      (h₂ : s.Becomes a s₂) :
      (objectText index kind key : Crossing M δ ε (Option String)).wp handler
        ⟨fun _ => s.Becomes a, E, broken⟩ s₂ := by
    unfold objectText
    split
    · exact textProp_spec T h₂ hp hi key
    · exact h₂
  have hmessage (text : Option String) {s₂ : Session M BoundFunction (HostState δ)}
      (h₂ : s.Becomes a s₂) : (messageText index text : Crossing M δ ε String).wp handler
        ⟨fun _ => s.Becomes a, E, broken⟩ s₂ := by
    cases text with
    | some text => exact h₂
    | none =>
      refine wp_then (displayText_spec T h₂ index) fun shown s₃ h₃ => ?_
      cases shown with
      | some text => exact h₃
      | none => exact h₃
  rw [readThrown_eq]
  refine wp_then (slotType_spec hs (Array.getElem?_eq_getElem hi)) fun kind s₂ h₂ => ?_
  refine wp_then (htext kind _ h₂.2) fun name s₃ h₃ => ?_
  refine wp_then (htext kind _ h₃) fun message s₄ h₄ => ?_
  exact wp_then (htext kind _ h₄) fun trace s₅ h₅ => wp_then (hmessage message h₅) fun _ _ h₆ => h₆

/-- What was thrown is taken off, and becomes an error that is not fatal. -/
theorem check_spec (T : Trust handler broken) (hp : s.poison = none)
    {x : Crossing M δ EngineError α} {P : α → Session M BoundFunction (HostState δ) → Prop}
    (hx : x.wp handler (orThrown s a broken P) s₁) :
    (check x).wp handler (orFails (s.Becomes a) broken P) s₁ := by
  unfold check
  rw [wp_bind, wp_attempt]
  refine wp_mono hx (fun r s₂ h₂ => h₂) ?_ fun _ _ h => h
  rintro e s₂ ⟨rfl, v, h₂⟩
  unfold classify depth
  simp only [wp_bind, wp_read, h₂.slots, Array.size_push]
  have hread : (readThrown a.size : Crossing M δ Error Error).wp handler
      ⟨fun _ => s.Becomes (a.push v), fun _ _ => False, broken⟩ s₂ :=
    readThrown_spec T h₂ hp (by simp)
  refine wp_mono (wp_and hread (readThrown_not_fatal a.size handler s₂)) ?_ (fun _ _ h => h.1.elim)
    fun _ _ h => h.1
  rintro error s₃ ⟨h₃, herror⟩
  dsimp only
  refine wp_imp (setDepth_of_extends (extends_of_push (extends_of_becomes h₃)) hp) fun _ s₄ h₄ => ?_
  exact ⟨herror, h₄⟩

theorem check_extends (T : Trust handler broken) (hp : s.poison = none)
    {x : Crossing M δ EngineError α} {P : α → Session M BoundFunction (HostState δ) → Prop}
    (hx : x.wp handler (orThrown s a broken P) s₁) :
    (check x).wp handler (orFails (s.Extends a) broken P) s₁ :=
  wp_mono (check_spec T hp hx) (fun _ _ h => h) (fun _ _ h => ⟨h.1, extends_of_becomes h.2⟩)
    fun _ _ h => h

theorem ofExcept_spec {result : Except Error α} (he : ∀ e, result = .error e → e.isFatal = false)
    {left : Session M BoundFunction (HostState δ) → Prop} (hs : left s₁) :
    (Crossing.ofExcept result : Crossing M δ Error α).wp handler
      (orFails left broken fun r s' => result = .ok r ∧ s' = s₁) s₁ := by
  cases result with
  | ok r => exact ⟨rfl, rfl⟩
  | error e => exact ⟨he e rfl, hs⟩

end Crossing

/-! ## Host values to script values -/

namespace Marshaller

open Stack Stacked Crossing

variable {M : Machine} {δ : Type} (m : Marshaller)
  {handler : Handler M BoundFunction (HostState δ)}
  {broken : Payload → World M BoundFunction (HostState δ) → Prop}

theorem getElem?_push_of_some {a : Array ScriptValue} {index : Nat} {u : ScriptValue}
    (h : a[index]? = some u) (v : ScriptValue) : (a.push v)[index]? = some u := by
  obtain ⟨hi, rfl⟩ := Array.getElem?_eq_some_iff.mp h
  rw [Array.getElem?_push_lt hi]

mutual

theorem pushValue_spec (T : Trust handler broken) {s s₁ : Session M BoundFunction (HostState δ)}
    (hp : s.poison = none) (level : Nat) (v : HostValue) {a : Array ScriptValue}
    (hs : s.Becomes a s₁) :
    (m.pushValue level v : Crossing M δ Error Unit).wp handler
      (orFails (s.Extends a) broken fun _ s' => ∃ v, s.Becomes (a.push v) s') s₁ := by
  have hpush (v : ScriptValue) : (Stack.pushValue v : Crossing M δ Error Unit).wp handler
      (orFails (s.Extends a) broken fun _ s' => ∃ v, s.Becomes (a.push v) s') s₁ :=
    wp_imp (Stack.pushValue_spec hs v) fun _ _ h => ⟨v, h⟩
  unfold pushValue
  split
  · exact ⟨rfl, extends_of_becomes hs⟩
  · split
    · exact hpush _
    · exact hpush _
    · exact hpush _
    · exact hpush _
    · next items =>
      refine wp_then (pushArray_spec T hs) ?_
      rintro _ s₂ ⟨rfl, ref, h₂, hr⟩
      -- From here on the new array is one that must stay one.
      have hitems := pushItems_spec T (h₂.poison.trans hp) level items (.refl s₂) hr
        (by rw [h₂.slots]; exact Array.getElem?_push_size)
      rw [h₂.slots] at hitems
      exact wp_mono hitems (fun _ _ h => ⟨_, h₂.trans h⟩)
        (fun _ _ h => ⟨h.1, extends_of_push (extends_trans h₂ h.2)⟩) fun _ _ h => h
    · next entries =>
      refine wp_then (pushObject_spec T hs) ?_
      rintro _ s₂ ⟨rfl, ref, h₂⟩
      have hentries := pushEntries_spec T hp level entries h₂ Array.getElem?_push_size
      exact wp_mono hentries (fun _ _ h => ⟨.object ref, h⟩)
        (fun _ _ h => ⟨h.1, extends_of_push h.2⟩) fun _ _ h => h
    · exact wp_imp (pushNative_spec T hs _ _) fun _ _ h => h
    · exact ⟨rfl, extends_of_becomes hs⟩

theorem pushItems_spec (T : Trust handler broken) {s s₁ : Session M BoundFunction (HostState δ)}
    (hp : s.poison = none) (level : Nat) (items : List HostValue) {a : Array ScriptValue}
    (hs : s.Becomes a s₁) {array : Nat} {ref : Ref} (hr : M.shape s.world.machine ref = .array)
    (hv : a[array]? = some (.object ref)) :
    (m.pushItems level array items : Crossing M δ Error Unit).wp handler
      (orFails (s.Extends a) broken fun _ => s.Becomes a) s₁ := by
  cases items with
  | nil => exact hs
  | cons item rest =>
    refine wp_then (pushValue_spec T hp (level + 1) item hs) ?_
    rintro _ s₂ ⟨v, h₂⟩
    refine wp_then (check_extends T hp ?_) fun _ s₃ h₃ => pushItems_spec T hp level rest h₃ hr hv
    have happend := append_spec T h₂ (getElem?_push_of_some hv v) (h₂.shape hr)
    rwa [Array.pop_push] at happend

theorem pushEntries_spec (T : Trust handler broken) {s s₁ : Session M BoundFunction (HostState δ)}
    (hp : s.poison = none) (level : Nat) (entries : List (HostValue × HostValue))
    {a : Array ScriptValue} (hs : s.Becomes a s₁) {object : Nat} {ref : Ref}
    (hv : a[object]? = some (.object ref)) :
    (m.pushEntries level object entries : Crossing M δ Error Unit).wp handler
      (orFails (s.Extends a) broken fun _ => s.Becomes a) s₁ := by
  match entries with
  | [] => exact hs
  | (key, item) :: rest =>
    unfold pushEntries
    split
    · next name =>
      refine wp_then (pushValue_spec T hp (level + 1) item hs) ?_
      rintro _ s₂ ⟨v, h₂⟩
      refine wp_then (check_extends T hp ?_) fun _ s₃ h₃ => pushEntries_spec T hp level rest h₃ hv
      have hput := putProp_spec T h₂ (getElem?_push_of_some hv v) (Text.utf8 name)
      rwa [Array.pop_push] at hput
    · exact ⟨rfl, extends_of_becomes hs⟩

end

variable {s s₁ : Session M BoundFunction (HostState δ)} {a : Array ScriptValue}

theorem push_spec (T : Trust handler broken) (hp : s.poison = none) (v : HostValue)
    (hs : s.Becomes a s₁) :
    (m.push v : Crossing M δ Error Unit).wp handler
      (orFails (s.Becomes a) broken fun _ s' => ∃ v, s.Becomes (a.push v) s') s₁ := by
  unfold push depth
  simp only [wp_bind, wp_read, wp_attempt, hs.slots]
  refine wp_mono (m.pushValue_spec T hp 0 v hs) (fun _ _ h => h) ?_ fun _ _ h => h
  rintro e s₂ ⟨he, h₂⟩
  dsimp only
  exact wp_imp (setDepth_of_extends h₂ hp) fun _ s₃ h₃ => ⟨he, h₃⟩

/-! ## Script values to host values -/

theorem standIn_spec (hs : s.Becomes a s₁)
    {E : Error → Session M BoundFunction (HostState δ) → Prop} :
    (m.standIn : Crossing M δ Error HostValue).wp handler ⟨fun _ => s.Becomes a, E, broken⟩ s₁ := by
  unfold standIn
  split
  · exact hs
  · exact hs.setWorld (.refl _)

theorem charge_spec (hs : s.Becomes a s₁) (budget count : Nat) :
    (Crossing.ofExcept (m.charge budget count) : Crossing M δ Error Nat).wp handler
      (orFails (s.Extends a) broken fun _ => s.Becomes a) s₁ := by
  refine wp_imp (ofExcept_spec (fun e he => ?_) (extends_of_becomes hs)) ?_
  · unfold charge at he
    split at he
    · cases he
    · cases he
      rfl
  · rintro _ _ ⟨-, rfl⟩
    exact hs

theorem hostText_spec (hs : s.Becomes a s₁) (bytes : List UInt8) :
    (Crossing.ofExcept (hostText bytes) : Crossing M δ Error String).wp handler
      (orFails (s.Extends a) broken fun _ => s.Becomes a) s₁ := by
  refine wp_imp (ofExcept_spec (fun e he => ?_) (extends_of_becomes hs)) ?_
  · unfold hostText at he
    cases hb : Text.fromEngineText bytes with
    | ok text => rw [hb] at he; cases he
    | error encoding => rw [hb] at he; cases he; rfl
  · rintro _ _ ⟨-, rfl⟩
    exact hs

/-- Reading a slot leaves the slots alone, or something more on top. -/
def Reads (handler : Handler M BoundFunction (HostState δ))
    (broken : Payload → World M BoundFunction (HostState δ) → Prop)
    (s : Session M BoundFunction (HostState δ)) (reader : Reader M δ) : Prop :=
  ∀ (slot budget : Nat) (a : Array ScriptValue) (s₁ : Session M BoundFunction (HostState δ)),
    s.Becomes a s₁ → slot < a.size →
      (reader slot budget).wp handler (orFails (s.Extends a) broken fun _ => s.Becomes a) s₁

theorem Reads.top {reader : Reader M δ} (hreader : Reads handler broken s reader) {v : ScriptValue}
    (hs : s.Becomes (a.push v) s₁) (budget : Nat) :
    (reader a.size budget).wp handler (orFails (s.Extends a) broken fun _ => s.Extends a) s₁ :=
  wp_mono (hreader a.size budget (a.push v) s₁ hs (by simp))
    (fun _ _ h => extends_of_push (extends_of_becomes h))
    (fun _ _ h => ⟨h.1, extends_of_push h.2⟩) fun _ _ h => h

theorem wp_ofExcept_bind {α β : Type} {result : Except Error α} {f : α → Crossing M δ Error β}
    {P : β → Session M BoundFunction (HostState δ) → Prop}
    (he : ∀ e, result = .error e → e.isFatal = false) (hs : s.Becomes a s₁)
    (hf : ∀ r, (f r).wp handler (orFails (s.Extends a) broken P) s₁) :
    (Crossing.ofExcept result >>= f).wp handler (orFails (s.Extends a) broken P) s₁ := by
  refine wp_then (ofExcept_spec he (extends_of_becomes hs)) ?_
  rintro r _ ⟨-, rfl⟩
  exact hf r

theorem readItems_spec (T : Trust handler broken) (hp : s.poison = none) {reader : Reader M δ}
    (hreader : Reads handler broken s reader) {array : Nat} {ref : Ref}
    (hv : a[array]? = some (.object ref)) (count next budget : Nat) (done : List HostValue)
    (hs : s.Becomes a s₁) :
    (readItems reader array count next budget done).wp handler
      (orFails (s.Extends a) broken fun _ => s.Becomes a) s₁ := by
  induction count generalizing next budget done s₁ with
  | zero => exact hs
  | succ count ih =>
    rw [readItems_succ]
    refine wp_then (depth_spec hs) ?_
    rintro _ s₁ ⟨rfl, hs⟩
    refine wp_then (check_extends T hp (getIndex_spec T hs hv next)) ?_
    rintro _ s₂ ⟨v, h₂⟩
    refine attempt_spec (hreader.top h₂ budget) hp fun result s₃ he h₃ => ?_
    exact wp_ofExcept_bind he h₃ fun item => ih (next + 1) item.2 (item.1 :: done) h₃

theorem readEntries_spec (T : Trust handler broken) (hp : s.poison = none) {reader : Reader M δ}
    (hreader : Reads handler broken s reader) {object : Nat} (ho : object < a.size)
    (keys : List (List UInt8)) (budget : Nat) (done : List (HostValue × HostValue))
    (hs : s.Becomes a s₁) :
    (readEntries reader object keys budget done).wp handler
      (orFails (s.Extends a) broken fun _ => s.Becomes a) s₁ := by
  induction keys generalizing budget done s₁ with
  | nil => exact hs
  | cons key rest ih =>
    unfold readEntries
    refine wp_then (depth_spec hs) ?_
    rintro _ s₁ ⟨rfl, hs⟩
    refine wp_then (check_extends T hp (getProp_spec T hs ho key)) ?_
    rintro _ s₂ ⟨v, h₂⟩
    refine wp_then (slotType_spec h₂ Array.getElem?_push_size) fun kind s₃ h₃ => ?_
    split
    · have h₄ := extends_of_push (extends_of_becomes h₃.2)
      exact wp_then (setDepth_of_extends h₄ hp) fun _ s₄ h₅ => ih budget done h₅
    · refine attempt_spec (hreader.top h₃.2 budget) hp fun result s₄ he h₄ => ?_
      refine wp_then (hostText_spec h₄ key) fun name s₅ h₅ => ?_
      exact wp_ofExcept_bind he h₅ fun item => ih item.2 ((.string name, item.1) :: done) h₅

theorem object_of_ofValue_array {shape : Ref → Shape} {v : ScriptValue}
    (h : SlotType.array = SlotType.ofValue shape v) :
    ∃ ref, v = .object ref ∧ shape ref = .array := by
  cases v with
  | object ref =>
    refine ⟨ref, rfl, ?_⟩
    unfold SlotType.ofValue at h
    cases hr : shape ref with
    | array => rfl
    | plain => simp [hr] at h
    | function => simp [hr] at h
  | _ => simp [SlotType.ofValue] at h

theorem object_of_ofValue_object {shape : Ref → Shape} {v : ScriptValue}
    (h : SlotType.object = SlotType.ofValue shape v) : ∃ ref, v = .object ref := by
  cases v with
  | object ref => exact ⟨ref, rfl⟩
  | _ => simp [SlotType.ofValue] at h

theorem ofValue_ne_none (shape : Ref → Shape) (v : ScriptValue) :
    SlotType.ofValue shape v ≠ .none := by
  unfold SlotType.ofValue
  split
  all_goals try simp
  split <;> simp

/-- **Every slot is read**, whatever it holds. -/
theorem reads_read (T : Trust handler broken) (hp : s.poison = none) (levels : Nat) :
    Reads handler broken s (m.read levels) := by
  induction levels with
  | zero => exact fun _ _ a s₁ hs _ => ⟨rfl, extends_of_becomes hs⟩
  | succ levels ih =>
    intro slot budget a s₁ hs hi
    have hv := Array.getElem?_eq_getElem hi
    unfold read
    refine wp_then (slotType_spec hs hv) ?_
    rintro kind s₂ ⟨hkind, h₂⟩
    split
    · exact absurd hkind.symm (ofValue_ne_none _ _)
    · exact h₂
    · exact h₂
    · exact h₂
    · exact h₂
    · unfold getString
      rw [wp_bind, wp_read]
      exact wp_then (hostText_spec h₂ _) fun _ _ h => h
    · obtain ⟨ref, hobject, hr⟩ := object_of_ofValue_array hkind
      rw [hobject] at hv
      refine wp_then (check_extends T hp (arrayLength_spec T h₂ hv hr)) fun length s₃ h₃ => ?_
      refine wp_then (m.charge_spec h₃ budget length) fun budget s₄ h₄ => ?_
      exact wp_then (readItems_spec T hp ih hv length 0 budget [] h₄) fun _ _ h => h
    · obtain ⟨ref, hobject⟩ := object_of_ofValue_object hkind
      rw [hobject] at hv
      refine wp_then (check_extends T hp (ownKeys_spec T h₂ hv)) fun keys s₃ h₃ => ?_
      refine wp_then (m.charge_spec h₃ budget keys.length) fun budget s₄ h₄ => ?_
      exact wp_then (readEntries_spec T hp ih hi keys budget [] h₄) fun _ _ h => h
    · exact wp_then (m.standIn_spec h₂) fun _ _ h => h
    · exact wp_then (m.standIn_spec h₂) fun _ _ h => h

/-- The top slot is taken off, whether it can be converted or not. -/
theorem pop_spec (T : Trust handler broken) (hp : s.poison = none) {v : ScriptValue}
    (hs : s.Becomes (a.push v) s₁) :
    (m.pop : Crossing M δ Error HostValue).wp handler
      (orFails (s.Becomes a) broken fun _ => s.Becomes a) s₁ := by
  unfold pop
  refine wp_then (depth_spec hs) ?_
  rintro _ s₁ ⟨rfl, hs⟩
  rw [Array.size_push]
  dsimp only
  refine attempt_spec ((m.reads_read T hp _).top hs _) hp fun result s₂ he h₂ => ?_
  refine wp_then (ofExcept_spec he h₂) ?_
  rintro r _ ⟨-, rfl⟩
  exact h₂

end Marshaller

end ScriptHost
