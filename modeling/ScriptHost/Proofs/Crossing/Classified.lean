import ScriptHost.Proofs.Crossing.Assembled
import ScriptHost.Proofs.Machine.Blank
import ScriptHost.Proofs.Stack.Look

/-!
# What a thrown value is reported as

Script may throw anything, and anything may happen when the host looks at what was thrown: three
properties are read and the value itself may have to be printed, all of which runs script.  Here it
is said what the error is, by relations on worlds that know nothing of the stack.

* `ReadAsText`, `Message`: a property as text, and the message of the error;
* `Reported`: the error of a thrown value with the name, message and trace that were read;
* `Classified`: **the whole of it**, in the order in which script is run;
* `classify_of_classified`: the program does this, and takes the thrown value off;
* `classified_of_classify`: a run of the program that ends has done this;
* `classified_as_reported`: both together, and that it ends if every look at the value does.
-/

namespace ScriptHost

open Stack Stacked Crossing

variable {M : Machine} {κ ω δ ε α β : Type}

/-! ## The rules -/

section

variable (handler : Handler M κ ω) (v : ScriptValue)

/-- The property of a thrown value under the name, as text.  Values other than objects have none; on
an object it is missing if it cannot be read, is one of the two missing values or
cannot be printed. -/
inductive ReadAsText (name : Units) : World M κ ω → Option String → World M κ ω → Prop
  | noObject {w : World M κ ω} (hv : ∀ ref, v ≠ .object ref) : ReadAsText name w none w
  | unreadable {w w' : World M κ ω} {ref : Ref} (hv : v = .object ref)
      (h : LookedUp handler v name w none w') : ReadAsText name w none w'
  | missing {w w' : World M κ ω} {ref : Ref} {u : ScriptValue} (hv : v = .object ref)
      (h : LookedUp handler v name w (some u) w') (hu : u = .undefined ∨ u = .null) :
      ReadAsText name w none w'
  | printed {w w₁ w' : World M κ ω} {ref : Ref} {u : ScriptValue} {text : Option String}
      (hv : v = .object ref) (h : LookedUp handler v name w (some u) w₁)
      (hu : ¬ (u = .undefined ∨ u = .null)) (htext : Printed handler u w₁ text w') :
      ReadAsText name w text w'

/-- The message of the error: the value's own, or else the value as script prints it, or else a
fixed text. -/
inductive Message : Option String → World M κ ω → String → World M κ ω → Prop
  | own {w : World M κ ω} (message : String) : Message (some message) w message w
  | shown {w w' : World M κ ω} {text : Option String} (h : Printed handler v w text w') :
      Message none w (text.getD "unprintable thrown value") w'

end

/-- The error for a thrown value with this name, message and trace.  Three names have an error of
their own, which has no trace. -/
inductive Reported : Option String → String → Option String → Error → Prop
  | reference (message : String) (trace : Option String) :
      Reported (some "ReferenceError") message trace (.reference message)
  | typeError (message : String) (trace : Option String) :
      Reported (some "TypeError") message trace (.typeError message)
  | malformedSource (message : String) (trace : Option String) :
      Reported (some "SyntaxError") message trace (.malformedSource message)
  | script {name : Option String} (message : String) (trace : Option String)
      (hname : name ≠ some "ReferenceError" ∧ name ≠ some "TypeError" ∧ name ≠ some "SyntaxError") :
      Reported name message trace (.script (name.getD "Error") message trace)

/-- **How a thrown value becomes an error**: name, message and trace are read one after the other,
none of them with regard to what came of the others, and then the message is settled. -/
inductive Classified (handler : Handler M κ ω) (v : ScriptValue) (w : World M κ ω) :
    Error → World M κ ω → Prop
  | intro {name own trace : Option String} {message : String} {w₁ w₂ w₃ w₄ : World M κ ω}
      {e : Error} (hname : ReadAsText handler v (Text.units "name") w name w₁)
      (hown : ReadAsText handler v (Text.units "message") w₁ own w₂)
      (htrace : ReadAsText handler v (Text.units "stack") w₂ trace w₃)
      (hmessage : Message handler v own w₃ message w₄)
      (he : Reported name message trace e) : Classified handler v w e w₄

theorem Reported.isScriptError {name trace : Option String} {message : String} {e : Error}
    (h : Reported name message trace e) : e.isScriptError = true := by
  cases h <;> rfl

theorem Reported.not_isFatal {name trace : Option String} {message : String} {e : Error}
    (h : Reported name message trace e) : e.isFatal = false := by
  cases h <;> rfl

theorem exists_reported (name : Option String) (message : String) (trace : Option String) :
    ∃ e, Reported name message trace e := by
  by_cases href : name = some "ReferenceError"
  · exact href ▸ ⟨_, .reference message trace⟩
  by_cases htype : name = some "TypeError"
  · exact htype ▸ ⟨_, .typeError message trace⟩
  by_cases hsyntax : name = some "SyntaxError"
  · exact hsyntax ▸ ⟨_, .malformedSource message trace⟩
  exact ⟨_, .script message trace ⟨href, htype, hsyntax⟩⟩

/-- What is made of the three texts. -/
theorem Reported.eq {name trace : Option String} {message : String} {e : Error} :
    Reported name message trace e →
    (match name with
      | some "ReferenceError" => Error.reference message
      | some "TypeError" => .typeError message
      | some "SyntaxError" => .malformedSource message
      | name => .script (name.getD "Error") message trace) = e := by
  intro h
  cases h with
  | script _ _ hname =>
    obtain ⟨href, htype, hsyntax⟩ := hname
    split
    · exact absurd rfl href
    · exact absurd rfl htype
    · exact absurd rfl hsyntax
    · rfl
  | _ => rfl

/-! ## Something always comes of it -/

section

variable {handler : Handler M κ ω}

theorem exists_readAsText (h : M.LooksEnd handler) (v : ScriptValue) (name : Units)
    (w : World M κ ω) : ∃ text w', ReadAsText handler v name w text w' := by
  by_cases hv : ∃ ref, v = .object ref
  · obtain ⟨ref, rfl⟩ := hv
    obtain ⟨value, w₁, hvalue⟩ := exists_lookedUp h (.object ref) name w
    cases value with
    | none => exact ⟨none, w₁, .unreadable rfl hvalue⟩
    | some u =>
      by_cases hu : u = .undefined ∨ u = .null
      · exact ⟨none, w₁, .missing rfl hvalue hu⟩
      · obtain ⟨text, w₂, htext⟩ := exists_printed h u w₁
        exact ⟨text, w₂, .printed rfl hvalue hu htext⟩
  · exact ⟨none, w, .noObject fun ref hr => hv ⟨ref, hr⟩⟩

theorem exists_message (h : M.LooksEnd handler) (v : ScriptValue) (own : Option String)
    (w : World M κ ω) : ∃ message w', Message handler v own w message w' := by
  cases own with
  | some message => exact ⟨message, w, .own message⟩
  | none =>
    obtain ⟨text, w', htext⟩ := exists_printed h v w
    exact ⟨_, w', .shown htext⟩

theorem exists_classified (h : M.LooksEnd handler) (v : ScriptValue) (w : World M κ ω) :
    ∃ e w', Classified handler v w e w' := by
  obtain ⟨name, w₁, hname⟩ := exists_readAsText h v (Text.units "name") w
  obtain ⟨own, w₂, hown⟩ := exists_readAsText h v (Text.units "message") w₁
  obtain ⟨trace, w₃, htrace⟩ := exists_readAsText h v (Text.units "stack") w₂
  obtain ⟨message, w₄, hmessage⟩ := exists_message h v own w₃
  obtain ⟨e, he⟩ := exists_reported name message trace
  exact ⟨e, w₄, .intro hname hown htrace hmessage he⟩

end

/-! ## The program follows the rules -/

/-- The session has moved on to the world.  Nothing was taken off the stack, and nothing is left on
top, except on a poisoned stack, which cannot be taken back. -/
structure Session.MovesTo (s : Session M κ ω) (w : World M κ ω) (s' : Session M κ ω) : Prop where
  world : s'.world = w
  poison : s'.poison = s.poison
  slots : ∃ more, s'.slots = s.slots ++ more
  unchanged : s.poison = none → s'.slots = s.slots

theorem Session.MovesTo.refl (s : Session M κ ω) : s.MovesTo s.world s :=
  ⟨rfl, rfl, ⟨#[], by simp⟩, fun _ => rfl⟩

theorem Session.MovesTo.setWorld (s : Session M κ ω) (w : World M κ ω) :
    s.MovesTo w { s with world := w } := ⟨rfl, rfl, ⟨#[], by simp⟩, fun _ => rfl⟩

theorem Session.MovesTo.trans {s s₁ s₂ : Session M κ ω} {w w' : World M κ ω} (h : s.MovesTo w s₁)
    (h' : s₁.MovesTo w' s₂) : s.MovesTo w' s₂ where
  world := h'.world
  poison := h'.poison.trans h.poison
  slots := by
    obtain ⟨more, hmore⟩ := h.slots
    obtain ⟨more', hmore'⟩ := h'.slots
    exact ⟨more ++ more', by rw [hmore', hmore, Array.append_assoc]⟩
  unchanged hp := (h'.unchanged (h.poison.trans hp)).trans (h.unchanged hp)

theorem Session.MovesTo.getElem? {s s' : Session M κ ω} {w : World M κ ω} (h : s.MovesTo w s')
    {index : Nat} {v : ScriptValue} (hv : s.slots[index]? = some v) :
    s'.slots[index]? = some v := by
  obtain ⟨more, hmore⟩ := h.slots
  obtain ⟨hi, -⟩ := Array.getElem?_eq_some_iff.mp hv
  rw [hmore, Array.getElem?_append_left hi, hv]

/-- The session `s₁` that `s` has come to with something left on top, which is taken off as far as
that can be done. -/
def Session.retaken (s s₁ : Session M κ ω) : Session M κ ω :=
  if s.poison.isSome then s₁ else { s₁ with slots := s.slots }

theorem Session.movesTo_retaken {s s₁ : Session M κ ω} {more : Array ScriptValue}
    (hslots : s₁.slots = s.slots ++ more) (hp : s₁.poison = s.poison) :
    s.MovesTo s₁.world (s.retaken s₁) := by
  unfold retaken
  cases hpoison : s.poison with
  | some reason => exact ⟨rfl, hp, ⟨more, hslots⟩, fun h => by simp [hpoison] at h⟩
  | none => exact ⟨rfl, hp, ⟨#[], by simp⟩, fun _ => rfl⟩

/-- The run of the program answers with `a`, and the session has moved on to the world. -/
def Stacked.comesTo (x : Stacked M κ ω ε α) (handler : Handler M κ ω) (s : Session M κ ω) (a : α)
    (w : World M κ ω) : Prop := ∃ s', x handler s = .ok a s' ∧ s.MovesTo w s'

theorem Stacked.comesTo_bind {x : Stacked M κ ω ε α} {f : α → Stacked M κ ω ε β}
    {handler : Handler M κ ω} {s : Session M κ ω} {a : α} {b : β} {w w' : World M κ ω}
    (hx : x.comesTo handler s a w)
    (hf : ∀ s₁, s.MovesTo w s₁ → (f a).comesTo handler s₁ b w') :
    (x >>= f).comesTo handler s b w' := by
  obtain ⟨s₁, hrun, h₁⟩ := hx
  obtain ⟨s₂, hrun', h₂⟩ := hf s₁ h₁
  exact ⟨s₂, (bind_eq_of_ok hrun).trans hrun', h₁.trans h₂⟩

namespace Crossing

variable {handler : Handler M BoundFunction (HostState δ)}
  {s : Session M BoundFunction (HostState δ)}

theorem setDepth_of_append {s₁ : Session M BoundFunction (HostState δ)} {more : Array ScriptValue}
    (hslots : s₁.slots = s.slots ++ more) (hp : s₁.poison = s.poison) :
    (setDepth s.slots.size : Crossing M δ ε Unit) handler s₁ = .ok () (s.retaken s₁) := by
  have htake : (s.slots ++ more).take s.slots.size = s.slots := Array.ext' (by simp)
  cases hpoison : s.poison with
  | some reason => simp [setDepth, Stacked.update, Session.retaken, hp, hpoison]
  | none => simp [setDepth, Stacked.update, Session.retaken, hp, hpoison, hslots, htake]

theorem isNullish_ofValue (shape : Ref → Shape) (u : ScriptValue) :
    (SlotType.ofValue shape u).isNullish = true ↔ u = .undefined ∨ u = .null := by
  cases u with
  | object ref => cases h : shape ref <;> simp [SlotType.ofValue, SlotType.isNullish, h]
  | _ => simp [SlotType.ofValue, SlotType.isNullish]

theorem textProp_of_readAsText {index : Nat} {ref : Ref} {key : String} {text : Option String}
    {w : World M BoundFunction (HostState δ)} (hv : s.slots[index]? = some (.object ref))
    (h : ReadAsText handler (.object ref) (Text.units key) s.world text w) :
    (textProp index key : Crossing M δ ε (Option String)).comesTo handler s text w := by
  -- Whatever has been read, what the look-up has put on top is taken off.
  have hend {s₁ : Session M BoundFunction (HostState δ)} {u : ScriptValue}
      (shown : Option (List UInt8)) (hslots : s₁.slots = s.slots.push u)
      (hp : s₁.poison = s.poison) :
      ∃ s', (setDepth s.slots.size >>= fun _ => pure (shown.map Text.fromEngineTextLossy) :
        Crossing M δ ε (Option String)) handler s₁ =
          .ok (shown.map Text.fromEngineTextLossy) s' ∧ s.MovesTo s₁.world s' := by
    have happend : s₁.slots = s.slots ++ #[u] := by simp [hslots]
    exact ⟨_, bind_eq_of_ok (setDepth_of_append happend hp), Session.movesTo_retaken happend hp⟩
  have hkey := Text.decodeUnits_utf8 key
  unfold textProp comesTo
  rw [bind_eq_of_ok (show depth handler s = .ok s.slots.size s from rfl)]
  cases h with
  | noObject hv => exact absurd rfl (hv ref)
  | unreadable _ hl =>
    obtain ⟨u, hget⟩ := getProp_of_lookedUp hkey hv hl
    rw [bind_eq_of_ok (attempt_of_error hget)]
    exact hend none rfl rfl
  | @missing _ _ u _ hl hu =>
    obtain ⟨found, hget⟩ := getProp_of_lookedUp hkey hv hl
    have hkind : (slotType s.slots.size : Crossing M δ ε SlotType) handler
        ⟨w, s.slots.push u, s.poison⟩ =
          .ok (SlotType.ofValue (M.shape w.machine) u) ⟨w, s.slots.push u, s.poison⟩ := by
      simp [slotType, Stacked.read]
    rw [bind_eq_of_ok (attempt_of_ok hget)]
    dsimp only
    rw [bind_eq_of_ok hkind, if_pos ((isNullish_ofValue _ _).mpr hu)]
    exact hend none rfl rfl
  | @printed w₁ _ _ u _ _ hl hu htext =>
    obtain ⟨found, hget⟩ := getProp_of_lookedUp hkey hv hl
    have hkind : (slotType s.slots.size : Crossing M δ ε SlotType) handler
        ⟨w₁, s.slots.push u, s.poison⟩ =
          .ok (SlotType.ofValue (M.shape w₁.machine) u) ⟨w₁, s.slots.push u, s.poison⟩ := by
      simp [slotType, Stacked.read]
    obtain ⟨shown, hshown, rfl⟩ := displayText_of_printed (ε := ε)
      (s := ⟨w₁, s.slots.push u, s.poison⟩) Array.getElem?_push_size htext
    rw [bind_eq_of_ok (attempt_of_ok hget)]
    dsimp only
    rw [bind_eq_of_ok hkind, if_neg (fun h => hu ((isNullish_ofValue _ _).mp h)),
      bind_eq_of_ok hshown]
    exact hend shown rfl rfl

theorem isObject_ofValue (shape : Ref → Shape) (v : ScriptValue) :
    (SlotType.ofValue shape v = .object ∨ SlotType.ofValue shape v = .array ∨
      SlotType.ofValue shape v = .function) ↔ ∃ ref, v = .object ref := by
  cases v with
  | object ref => cases h : shape ref <;> simp [SlotType.ofValue, h]
  | _ => simp [SlotType.ofValue]

/-- What the value was seen to be at first decides, whatever it has become since. -/
theorem objectText_of_readAsText {index : Nat} {v : ScriptValue} {shape : Ref → Shape}
    {key : String} {text : Option String} {w : World M BoundFunction (HostState δ)}
    (hv : s.slots[index]? = some v) (h : ReadAsText handler v (Text.units key) s.world text w) :
    (objectText index (SlotType.ofValue shape v) key :
      Crossing M δ ε (Option String)).comesTo handler s text w := by
  unfold objectText
  by_cases hobject : ∃ ref, v = .object ref
  · rw [if_pos ((isObject_ofValue shape v).mpr hobject)]
    obtain ⟨ref, rfl⟩ := hobject
    exact textProp_of_readAsText hv h
  · rw [if_neg (mt (isObject_ofValue shape v).mp hobject)]
    cases h with
    | noObject _ => exact ⟨s, rfl, .refl s⟩
    | unreadable hr | missing hr | printed hr => exact absurd ⟨_, hr⟩ hobject

theorem messageText_of_message {index : Nat} {v : ScriptValue} {own : Option String}
    {message : String} {w : World M BoundFunction (HostState δ)} (hv : s.slots[index]? = some v)
    (h : Message handler v own s.world message w) :
    (messageText index own : Crossing M δ ε String).comesTo handler s message w := by
  cases h with
  | own message => exact ⟨s, rfl, .refl s⟩
  | shown htext =>
    obtain ⟨shown, hshown, rfl⟩ := displayText_of_printed (ε := ε) hv htext
    refine ⟨{ s with world := w }, (bind_eq_of_ok hshown).trans ?_, .setWorld s w⟩
    cases shown with
    | none => rfl
    | some bytes => rfl

theorem readThrown_of_classified {index : Nat} {v : ScriptValue} {e : Error}
    {w : World M BoundFunction (HostState δ)} (hv : s.slots[index]? = some v)
    (h : Classified handler v s.world e w) :
    (readThrown index : Crossing M δ ε Error).comesTo handler s e w := by
  obtain ⟨hname, hown, htrace, hmessage, he⟩ := h
  have hkind : (slotType index : Crossing M δ ε SlotType).comesTo handler s
      (SlotType.ofValue (M.shape s.world.machine) v) s.world :=
    ⟨s, by simp [slotType, Stacked.read, hv], .refl s⟩
  rw [readThrown_eq]
  -- The value stays in its slot while the world moves on under it.
  refine comesTo_bind hkind fun s₀ h₀ => ?_
  have hv₀ := h₀.getElem? hv
  refine comesTo_bind (objectText_of_readAsText hv₀ (h₀.world.symm ▸ hname)) fun s₁ h₁ => ?_
  have hv₁ := h₁.getElem? hv₀
  refine comesTo_bind (objectText_of_readAsText hv₁ (h₁.world.symm ▸ hown)) fun s₂ h₂ => ?_
  have hv₂ := h₂.getElem? hv₁
  refine comesTo_bind (objectText_of_readAsText hv₂ (h₂.world.symm ▸ htrace)) fun s₃ h₃ => ?_
  have hv₃ := h₃.getElem? hv₂
  refine comesTo_bind (messageText_of_message hv₃ (h₃.world.symm ▸ hmessage)) fun s₄ h₄ => ?_
  exact ⟨s₄, congrArg (Outcome.ok · s₄) he.eq, h₄.world ▸ .refl s₄⟩

theorem classify_thrown_eq {a : Array ScriptValue} {v : ScriptValue} (hslots : s.slots = a.push v) :
    (classify .thrown : Crossing M δ Error α) handler s =
      (readThrown a.size >>= fun e => setDepth a.size >>= fun _ => fail e) handler s := by
  have hdepth : (depth : Crossing M δ Error Nat) handler s = .ok (a.size + 1) s := by
    simp [depth, Stacked.read, hslots]
  exact bind_eq_of_ok hdepth

/-- **The program follows the rules** and takes the thrown value off, together with all that it has
put on top of it. -/
theorem classify_of_classified {a : Array ScriptValue} {v : ScriptValue} {e : Error}
    {w : World M BoundFunction (HostState δ)} (hslots : s.slots = a.push v)
    (h : Classified handler v s.world e w) :
    ∃ s', (classify .thrown : Crossing M δ Error α) handler s = .error e s' ∧
      Session.MovesTo { s with slots := a } w s' := by
  obtain ⟨s₁, hread, h₁⟩ := readThrown_of_classified (ε := Error)
    (hslots ▸ Array.getElem?_push_size) h
  obtain ⟨more, hmore⟩ := h₁.slots
  have happend : s₁.slots = a ++ (#[v] ++ more) := by simp [hmore, hslots]
  have hset : (setDepth a.size : Crossing M δ Error Unit) handler s₁ =
      .ok () (Session.retaken { s with slots := a } s₁) :=
    setDepth_of_append (s := { s with slots := a }) happend h₁.poison
  refine ⟨_, ?_, h₁.world ▸ Session.movesTo_retaken (s := { s with slots := a }) happend h₁.poison⟩
  rw [classify_thrown_eq hslots, bind_eq_of_ok hread, bind_eq_of_ok hset]
  rfl

/-! ## A run that ends has followed the rules -/

theorem exists_readAsText_of_ends {index : Nat} {v : ScriptValue} {shape : Ref → Shape}
    {key : String} {ok : Option String → Session M BoundFunction (HostState δ) → Prop}
    {error : ε → Session M BoundFunction (HostState δ) → Prop} (hv : s.slots[index]? = some v)
    (h : (objectText index (SlotType.ofValue shape v) key :
      Crossing M δ ε (Option String)).ends handler ok error s) :
    ∃ text w, ReadAsText handler v (Text.units key) s.world text w := by
  unfold objectText at h
  by_cases hobject : ∃ ref, v = .object ref
  · rw [if_pos ((isObject_ofValue shape v).mpr hobject)] at h
    obtain ⟨ref, rfl⟩ := hobject
    unfold textProp depth at h
    simp only [ends_bind, ends_read, ends_attempt] at h
    have hkey := Text.decodeUnits_utf8 key
    obtain ⟨value, w₁, hvalue⟩ := exists_lookedUp_of_ends hkey hv h
    cases value with
    | none => exact ⟨none, w₁, .unreadable rfl hvalue⟩
    | some u =>
      by_cases hu : u = .undefined ∨ u = .null
      · exact ⟨none, w₁, .missing rfl hvalue hu⟩
      · obtain ⟨found, hget⟩ := getProp_of_lookedUp hkey hv hvalue
        have hrest := of_ends_of_eq_ok h hget
        have hkind := mt (isNullish_ofValue (M.shape w₁.machine) u).mp hu
        simp only [slotType, ends_bind, ends_read, Array.getElem?_push_size, if_neg hkind] at hrest
        obtain ⟨text, w₂, htext⟩ := exists_printed_of_ends Array.getElem?_push_size hrest
        exact ⟨text, w₂, .printed rfl hvalue hu htext⟩
  · exact ⟨none, s.world, .noObject fun ref hr => hobject ⟨ref, hr⟩⟩

theorem exists_message_of_ends {index : Nat} {v : ScriptValue} {own : Option String}
    {ok : String → Session M BoundFunction (HostState δ) → Prop}
    {error : ε → Session M BoundFunction (HostState δ) → Prop} (hv : s.slots[index]? = some v)
    (h : (messageText index own : Crossing M δ ε String).ends handler ok error s) :
    ∃ message w, Message handler v own s.world message w := by
  cases own with
  | some message => exact ⟨message, s.world, .own message⟩
  | none =>
    unfold messageText at h
    simp only [ends_bind] at h
    obtain ⟨text, w, htext⟩ := exists_printed_of_ends hv h
    exact ⟨_, w, .shown htext⟩

theorem exists_classified_of_ends {index : Nat} {v : ScriptValue}
    {ok : Error → Session M BoundFunction (HostState δ) → Prop}
    {error : ε → Session M BoundFunction (HostState δ) → Prop} (hv : s.slots[index]? = some v)
    (h : (readThrown index : Crossing M δ ε Error).ends handler ok error s) :
    ∃ e w, Classified handler v s.world e w := by
  rw [readThrown_eq] at h
  simp only [ends_bind, slotType, ends_read, hv] at h
  obtain ⟨name, w₁, hname⟩ := exists_readAsText_of_ends hv h
  obtain ⟨s₁, hrun₁, h₁⟩ := objectText_of_readAsText (ε := ε) hv hname
  have hrest₁ := of_ends_of_eq_ok h hrun₁
  have hv₁ := h₁.getElem? hv
  obtain ⟨own, w₂, hown⟩ := exists_readAsText_of_ends hv₁ hrest₁
  obtain ⟨s₂, hrun₂, h₂⟩ := objectText_of_readAsText (ε := ε) hv₁ hown
  have hrest₂ := of_ends_of_eq_ok hrest₁ hrun₂
  have hv₂ := h₂.getElem? hv₁
  obtain ⟨trace, w₃, htrace⟩ := exists_readAsText_of_ends hv₂ hrest₂
  obtain ⟨s₃, hrun₃, h₃⟩ := objectText_of_readAsText (ε := ε) hv₂ htrace
  have hrest₃ := of_ends_of_eq_ok hrest₂ hrun₃
  obtain ⟨message, w₄, hmessage⟩ := exists_message_of_ends (h₃.getElem? hv₂) hrest₃
  obtain ⟨e, he⟩ := exists_reported name message trace
  rw [h₁.world] at hown
  rw [h₂.world] at htrace
  rw [h₃.world] at hmessage
  exact ⟨e, w₄, .intro hname hown htrace hmessage he⟩

theorem classified_of_classify {a : Array ScriptValue} {v : ScriptValue} {e : Error}
    {s' : Session M BoundFunction (HostState δ)} (hslots : s.slots = a.push v)
    (hrun : (classify .thrown : Crossing M δ Error α) handler s = .error e s') :
    Classified handler v s.world e s'.world ∧
      Session.MovesTo { s with slots := a } s'.world s' := by
  have hends : (readThrown a.size >>= fun e => setDepth a.size >>= fun _ => fail e :
      Crossing M δ Error α).ends handler (fun _ _ => True) (fun _ _ => True) s := by
    rw [ends, ← classify_thrown_eq hslots, hrun]
    trivial
  obtain ⟨e', w, hclassified⟩ := exists_classified_of_ends (hslots ▸ Array.getElem?_push_size)
    ((ends_bind _ _).mp hends)
  obtain ⟨s'', hrun', hmoves⟩ := classify_of_classified (α := α) hslots hclassified
  rw [hrun] at hrun'
  cases hrun'
  exact ⟨hmoves.world.symm ▸ hclassified, hmoves.world.symm ▸ hmoves⟩

/-- **Whatever is thrown is reported**, however hostile.  The error of a thrown value on top of a
stack is the one that the rules of `Classified` come to, and no other; script could have raised it,
so it is never a fatal one.  Just the thrown value is taken off and the stack is not poisoned; a
stack that was poisoned before only keeps what was there.  An error it is, if every getter, trap and
conversion answers or throws. -/
theorem classified_as_reported {a : Array ScriptValue} {v : ScriptValue}
    (hslots : s.slots = a.push v) :
    let run := (classify .thrown : Crossing M δ Error α) handler s
    (∀ e w, (∃ s', run = .error e s' ∧ s'.world = w) ↔ Classified handler v s.world e w) ∧
    (∀ e s', run = .error e s' →
      e.isScriptError = true ∧ e.isFatal = false ∧ s'.poison = s.poison ∧
      (∃ more, s'.slots = a ++ more) ∧ (s.poison = none → s'.slots = a)) ∧
    (M.LooksEnd handler → ∃ e s', run = .error e s') := by
  refine ⟨fun e w => ⟨?_, fun hclassified => ?_⟩, fun e s' hrun => ?_, fun h => ?_⟩
  · rintro ⟨s', hrun, rfl⟩
    exact (classified_of_classify hslots hrun).1
  · obtain ⟨s', hrun, hmoves⟩ := classify_of_classified hslots hclassified
    exact ⟨s', hrun, hmoves.world⟩
  · obtain ⟨⟨-, -, -, -, he⟩, hmoves⟩ := classified_of_classify hslots hrun
    exact ⟨he.isScriptError, he.not_isFatal, hmoves.poison, hmoves.slots, hmoves.unchanged⟩
  · obtain ⟨e, w, hclassified⟩ := exists_classified h v s.world
    obtain ⟨s', hrun, -⟩ := classify_of_classified hslots hclassified
    exact ⟨e, s', hrun⟩

end Crossing

/-! ## A value that resists -/

namespace Machine

/-- A machine whose objects have a symbol for a message and a trace that ends in half a pair, refuse
to give anything else, and cannot be printed. -/
def evasive : Machine :=
  { grudging with
    has := fun _ _ => still true
    get := fun _ name =>
      match [(Text.units "message", ScriptValue.symbol 0),
        (Text.units "stack", .string [0x61, 0xD800])].lookup name with
      | some v => still v
      | none => refuse
    toText := fun v => match v with
      | .string us => still us
      | _ => refuse }

theorem looksEnd_evasive (handler : Handler evasive κ ω) : evasive.LooksEnd handler := by
  intro α f hf w
  cases hf with
  | toObject v => cases v <;> exact ⟨_, _, rfl⟩
  | toText v => cases v <;> exact ⟨_, _, rfl⟩
  | get ref name =>
    cases hlookup : [(Text.units "message", ScriptValue.symbol 0),
        (Text.units "stack", .string [0x61, 0xD800])].lookup name with
    | some v => exact ⟨_, _, by simp only [evasive, hlookup]; rfl⟩
    | none => exact ⟨_, _, by simp only [evasive, hlookup]; rfl⟩
  | _ => exact ⟨_, _, rfl⟩

end Machine

/-- Nothing of the value can be told but its trace. -/
theorem classified_as_reported_evasive :
    let handler : Handler Machine.evasive BoundFunction (HostState Unit) :=
      fun _ _ _ _ => .exhausted
    let s : Session Machine.evasive BoundFunction (HostState Unit) :=
      ⟨⟨Machine.evasive.fresh, #[], ⟨.fresh, ()⟩⟩, #[.null, .object 0], none⟩
    let e := Error.script "Error" "unprintable thrown value" (some "a\uFFFD")
    ∃ s', (classify .thrown : Crossing Machine.evasive Unit Error Unit) handler s = .error e s' ∧
      Classified handler (.object 0) s.world e s'.world ∧ e.isScriptError = true ∧
      s'.poison = none ∧ s'.slots = #[.null] := by
  intro handler s e
  obtain ⟨hrules, hend, hlooks⟩ :=
    Crossing.classified_as_reported (α := Unit) (s := s) (a := #[.null]) (v := .object 0) rfl
  obtain ⟨e', s', hrun⟩ := hlooks (Machine.looksEnd_evasive handler)
  have hname : ReadAsText handler (.object 0) (Text.units "name") s.world none s.world :=
    .unreadable rfl (.noValue rfl rfl rfl ⟨_, fun _ _ _ => rfl⟩)
  have hown : ReadAsText handler (.object 0) (Text.units "message") s.world none s.world :=
    .printed rfl (.found rfl rfl rfl) nofun (.thrown rfl)
  have hlossy : Text.pairUnitsLossy [0x61, 0xD800] = "a\uFFFD" := by decide
  have hprinted : Printed handler (.string [0x61, 0xD800]) s.world (some "a\uFFFD") s.world :=
    hlossy ▸ .text rfl
  have htrace : ReadAsText handler (.object 0) (Text.units "stack") s.world (some "a\uFFFD")
      s.world := .printed rfl (.found rfl rfl rfl) nofun hprinted
  have hclassified : Classified handler (.object 0) s.world e s.world :=
    .intro hname hown htrace (.shown (.thrown rfl)) (.script _ _ ⟨nofun, nofun, nofun⟩)
  obtain ⟨_, hrun', hworld⟩ := (hrules e s.world).mpr hclassified
  cases hrun.symm.trans hrun'
  obtain ⟨hscript, -, hp, -, hslots⟩ := hend e s' hrun
  exact ⟨s', hrun, hworld ▸ hclassified, hscript, hp, hslots rfl⟩

end ScriptHost
