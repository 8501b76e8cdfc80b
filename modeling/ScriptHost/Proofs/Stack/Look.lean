import ScriptHost.Proofs.Machine.Trust
import ScriptHost.Proofs.Stack.Total
import ScriptHost.Proofs.Text.Exchange
import ScriptHost.Stack.Primitive

/-!
# Looking at values, whatever they do

To print a value or to look up one of its properties may run script at every step, and the script
may throw.  The relations below say what comes of it, with the world before and the world after;
they know nothing of the stack.

* `Printed`, `Raised`, `LookedUp`: a value printed, a failure thrown, a property looked up;
* `Machine.LooksEnd`: each look at a value answers or throws, and then all of these come to
  something: `exists_printed`, `exists_raised`, `exists_lookedUp`;
* `displayText_of_printed`, `getProp_of_lookedUp`: what it is for the primitives;
* `exists_printed_of_ends`, `exists_lookedUp_of_ends`: a primitive that ends at all
  ends in this way.
-/

namespace ScriptHost

open Stacked

variable {M : Machine} {κ ω ε ε' α β : Type}

namespace Stacked

variable {handler : Handler M κ ω} {s s' : Session M κ ω}

theorem bind_eq_of_ok {x : Stacked M κ ω ε α} {f : α → Stacked M κ ω ε β} {a : α}
    (h : x handler s = .ok a s') : (x >>= f) handler s = f a handler s' := by
  rw [bind_apply, h]

theorem bind_eq_of_error {x : Stacked M κ ω ε α} {f : α → Stacked M κ ω ε β} {e : ε}
    (h : x handler s = .error e s') : (x >>= f) handler s = .error e s' := by
  rw [bind_apply, h]

theorem bind_eq_of_panicked {x : Stacked M κ ω ε α} {f : α → Stacked M κ ω ε β} {payload : Payload}
    {w : World M κ ω} (h : x handler s = .panicked payload w) :
    (x >>= f) handler s = .panicked payload w := by
  rw [bind_apply, h]

theorem map_congr_apply {x y : Stacked M κ ω ε α} (f : α → β) (h : x handler s = y handler s') :
    (f <$> x) handler s = (f <$> y) handler s' := by
  rw [map_eq_pure_bind, map_eq_pure_bind, bind_apply, bind_apply, h]

theorem attempt_of_ok {x : Stacked M κ ω ε α} {a : α} (h : x handler s = .ok a s') :
    (x.attempt : Stacked M κ ω ε' (Except ε α)) handler s = .ok (.ok a) s' := by
  rw [attempt, h]

theorem attempt_of_error {x : Stacked M κ ω ε α} {e : ε} (h : x handler s = .error e s') :
    (x.attempt : Stacked M κ ω ε' (Except ε α)) handler s = .ok (.error e) s' := by
  rw [attempt, h]

theorem attempt_of_panicked {x : Stacked M κ ω ε α} {payload : Payload} {w : World M κ ω}
    (h : x handler s = .panicked payload w) :
    (x.attempt : Stacked M κ ω ε' (Except ε α)) handler s = .panicked payload w := by
  rw [attempt, h]

theorem mapError_of_ok {x : Stacked M κ ω ε α} {f : ε → ε'} {a : α} (h : x handler s = .ok a s') :
    (x.mapError f) handler s = .ok a s' := by
  rw [mapError, h]

theorem wp_of_eq {x y : Stacked M κ ω ε α} {Q : Post M κ ω ε α} (h : x handler s = y handler s')
    (hy : y.wp handler Q s') : x.wp handler Q s := by
  unfold wp at hy ⊢
  rwa [h]

theorem of_ends_of_eq_ok {x : Stacked M κ ω ε α} {ok : α → Session M κ ω → Prop}
    {error : ε → Session M κ ω → Prop} {a : α} (h : x.ends handler ok error s)
    (hrun : x handler s = .ok a s') : ok a s' := by
  unfold ends at h
  rwa [hrun] at h

theorem of_ends_of_eq_error {x : Stacked M κ ω ε α} {ok : α → Session M κ ω → Prop}
    {error : ε → Session M κ ω → Prop} {e : ε} (h : x.ends handler ok error s)
    (hrun : x handler s = .error e s') : error e s' := by
  unfold ends at h
  rwa [hrun] at h

theorem ends_of_ok {x : Stacked M κ ω ε α} {f : α → Stacked M κ ω ε β}
    {ok : β → Session M κ ω → Prop} {error : ε → Session M κ ω → Prop} {a : α}
    (hx : x handler s = .ok a s') (h : (f a).ends handler ok error s') :
    (x >>= f).ends handler ok error s := by
  unfold ends at h ⊢
  rwa [bind_eq_of_ok hx]

theorem ends_of_error {x : Stacked M κ ω ε α} {f : α → Stacked M κ ω ε β}
    {ok : β → Session M κ ω → Prop} {error : ε → Session M κ ω → Prop} {e : ε}
    (hx : x handler s = .error e s') (h : error e s') : (x >>= f).ends handler ok error s := by
  unfold ends
  rwa [bind_eq_of_error hx]

theorem act_of_ended {f : M.State → Act M.State α} {result : Except Failure α} {w : World M κ ω}
    (h : (f s.world.machine).drive handler s.world = .ended result w) :
    (act f : Stacked M κ ω ε (Except Failure α)) handler s = .ok result { s with world := w } := by
  unfold act
  rw [h]

end Stacked

/-- The operations by which a thrown value is looked at. -/
inductive Machine.IsLook (M : Machine) : {α : Type} → (M.State → Act M.State α) → Prop
  | toObject (v : ScriptValue) : IsLook M (M.toObject v)
  | toText (v : ScriptValue) : IsLook M (M.toText v)
  | has (ref : Ref) (name : Units) : IsLook M (M.has ref name)
  | get (ref : Ref) (name : Units) : IsLook M (M.get ref name)
  | hasOwn (ref : Ref) (name : Units) : IsLook M (M.hasOwn ref name)
  | defineHidden (ref : Ref) (name : Units) (v : ScriptValue) : IsLook M (M.defineHidden ref name v)

/-- Each of them answers or throws, its calls answered by the handler. -/
def Machine.LooksEnd (M : Machine) (handler : Handler M κ ω) : Prop :=
  ∀ {α : Type} {f : M.State → Act M.State α}, M.IsLook f → ∀ w : World M κ ω,
    ∃ result w', (f w.machine).drive handler w = .ended result w'

namespace Stack

/-! ## What comes of it -/

section

variable (handler : Handler M κ ω)

/-- The value as script prints it, with unpaired halves replaced; nothing if that throws. -/
inductive Printed (v : ScriptValue) : World M κ ω → Option String → World M κ ω → Prop
  | text {w w' : World M κ ω} {us : Units}
      (h : (M.toText v w.machine).drive handler w = .ended (.ok us) w') :
      Printed v w (some (Text.pairUnitsLossy us)) w'
  | thrown {w w' : World M κ ω} {failure : Failure}
      (h : (M.toText v w.machine).drive handler w = .ended (.error failure) w') :
      Printed v w none w'

/-- The failure of an operation is thrown: on any stack it puts one value on top and does nothing
else to it.  The world changes where a trace is recorded. -/
def Raised (failure : Failure) (w w' : World M κ ω) : Prop :=
  ∃ v, ∀ (α : Type) slots poison, (raise failure : Stacked M κ ω EngineError α) handler
    ⟨w, slots, poison⟩ = .error .thrown ⟨w', slots.push v, poison⟩

/-- The property of the value under the name, own or inherited;
nothing if one of the steps throws. -/
inductive LookedUp (v : ScriptValue) (name : Units) :
    World M κ ω → Option ScriptValue → World M κ ω → Prop
  | found {w w₁ w₂ w₃ : World M κ ω} {ref : Ref} {found : Bool} {u : ScriptValue}
      (hobject : (M.toObject v w.machine).drive handler w = .ended (.ok ref) w₁)
      (hhas : (M.has ref name w₁.machine).drive handler w₁ = .ended (.ok found) w₂)
      (hget : (M.get ref name w₂.machine).drive handler w₂ = .ended (.ok u) w₃) :
      LookedUp v name w (some u) w₃
  | noObject {w w₁ w' : World M κ ω} {failure : Failure}
      (hobject : (M.toObject v w.machine).drive handler w = .ended (.error failure) w₁)
      (hraised : Raised handler failure w₁ w') : LookedUp v name w none w'
  | noAnswer {w w₁ w₂ w' : World M κ ω} {ref : Ref} {failure : Failure}
      (hobject : (M.toObject v w.machine).drive handler w = .ended (.ok ref) w₁)
      (hhas : (M.has ref name w₁.machine).drive handler w₁ = .ended (.error failure) w₂)
      (hraised : Raised handler failure w₂ w') : LookedUp v name w none w'
  | noValue {w w₁ w₂ w₃ w' : World M κ ω} {ref : Ref} {found : Bool} {failure : Failure}
      (hobject : (M.toObject v w.machine).drive handler w = .ended (.ok ref) w₁)
      (hhas : (M.has ref name w₁.machine).drive handler w₁ = .ended (.ok found) w₂)
      (hget : (M.get ref name w₂.machine).drive handler w₂ = .ended (.error failure) w₃)
      (hraised : Raised handler failure w₃ w') : LookedUp v name w none w'

end

variable {handler : Handler M κ ω} {s : Session M κ ω}

/-! ## Something always comes of it -/

theorem exists_printed (h : M.LooksEnd handler) (v : ScriptValue) (w : World M κ ω) :
    ∃ text w', Printed handler v w text w' := by
  obtain ⟨result, w', hend⟩ := h (.toText v) w
  cases result with
  | ok us => exact ⟨_, w', .text hend⟩
  | error failure => exact ⟨none, w', .thrown hend⟩

/-- The trace of a failure is recorded on the object, unless there is one. -/
inductive Traced (handler : Handler M κ ω) (failure : Failure) (ref : Ref) :
    World M κ ω → World M κ ω → Prop
  | kept {w w' : World M κ ω} {result : Except Failure Bool}
      (hown : (M.hasOwn ref (Text.units "stack") w.machine).drive handler w = .ended result w')
      (hresult : result ≠ .ok false) : Traced handler failure ref w w'
  | recorded {w w₁ w' : World M κ ω} {result : Except Failure Unit}
      (hown : (M.hasOwn ref (Text.units "stack") w.machine).drive handler w = .ended (.ok false) w₁)
      (hdefine : (M.defineHidden ref (Text.units "stack")
        (.string (M.traceText w₁.machine failure)) w₁.machine).drive handler w₁ =
          .ended result w') :
      Traced handler failure ref w w'

theorem recordTrace_of_traced {failure : Failure} {ref : Ref} {w : World M κ ω}
    (h : Traced handler failure ref s.world w) :
    (recordTrace failure ref : Stacked M κ ω ε Unit) handler s = .ok () { s with world := w } := by
  unfold recordTrace
  cases h with
  | kept hown hresult =>
    refine (bind_eq_of_ok (act_of_ended hown)).trans ?_
    split
    · exact absurd rfl hresult
    · rfl
  | recorded hown hdefine =>
    refine (bind_eq_of_ok (act_of_ended hown)).trans ?_
    exact bind_eq_of_ok (act_of_ended (s := { s with world := _ }) hdefine)

theorem exists_traced (h : M.LooksEnd handler) (failure : Failure) (ref : Ref)
    (w : World M κ ω) : ∃ w', Traced handler failure ref w w' := by
  obtain ⟨result, w₁, hown⟩ := h (.hasOwn ref (Text.units "stack")) w
  by_cases hresult : result = .ok false
  · subst hresult
    obtain ⟨_, w', hdefine⟩ := h (.defineHidden ref (Text.units "stack") _) w₁
    exact ⟨w', .recorded hown hdefine⟩
  · exact ⟨w₁, .kept hown hresult⟩

/-- The value goes on top, if it is an error object with the trace of the failure. -/
def throwTraced (failure : Failure) (v : ScriptValue) : Stacked M κ ω EngineError α := do
  if let .object ref := v then
    if ← .read fun s => M.isError s.world.machine ref then
      recordTrace failure ref
  pushValue v
  .fail .thrown

theorem raise_eq (failure : Failure) : (raise failure : Stacked M κ ω EngineError α) =
    thrownValue failure >>= throwTraced failure := rfl

theorem throwTraced_of_traced {failure : Failure} {ref : Ref} {w : World M κ ω}
    (herror : M.isError s.world.machine ref = true) (h : Traced handler failure ref s.world w) :
    (throwTraced failure (.object ref) : Stacked M κ ω EngineError α) handler s =
      .error .thrown ⟨w, s.slots.push (.object ref), s.poison⟩ := by
  unfold throwTraced
  simp only [Stacked.read, bind_apply, herror, if_true, recordTrace_of_traced h]
  rfl

theorem throwTraced_of_not_isError {failure : Failure} {v : ScriptValue}
    (hv : ∀ ref, v = .object ref → M.isError s.world.machine ref = false) :
    (throwTraced failure v : Stacked M κ ω EngineError α) handler s =
      .error .thrown { s with slots := s.slots.push v } := by
  unfold throwTraced
  cases v with
  | object ref =>
    simp only [Stacked.read, bind_apply, hv ref rfl]
    rfl
  | _ => rfl

/-- The value that stands for a failure, and the world in which it does:
an object may have been made. -/
def thrownIn (failure : Failure) (w : World M κ ω) : ScriptValue × World M κ ω :=
  match failure.cause with
  | .value v => (v, w)
  | .limit message =>
    let made := M.newError .rangeError (Text.units message) w.machine
    (.object made.1, { w with machine := made.2 })

theorem thrownValue_eq (failure : Failure) :
    (thrownValue failure : Stacked M κ ω ε ScriptValue) handler s =
      .ok (thrownIn failure s.world).1 { s with world := (thrownIn failure s.world).2 } := by
  unfold thrownValue thrownIn
  cases failure.cause with
  | value v => rfl
  | limit message => rfl

/-- A failure is thrown if its trace can be recorded where it has to be. -/
theorem exists_raised_of_traced {failure : Failure} {w : World M κ ω}
    (h : ∀ ref, (thrownIn failure w).1 = .object ref →
      M.isError (thrownIn failure w).2.machine ref = true →
        ∃ w', Traced handler failure ref (thrownIn failure w).2 w') :
    ∃ w', Raised handler failure w w' := by
  by_cases hv : ∃ ref, (thrownIn failure w).1 = .object ref ∧
      M.isError (thrownIn failure w).2.machine ref = true
  · obtain ⟨ref, hobject, herror⟩ := hv
    obtain ⟨w', htraced⟩ := h ref hobject herror
    refine ⟨w', .object ref, fun α slots poison => ?_⟩
    rw [raise_eq, bind_eq_of_ok (thrownValue_eq failure), hobject]
    exact throwTraced_of_traced herror htraced
  · refine ⟨(thrownIn failure w).2, (thrownIn failure w).1, fun α slots poison => ?_⟩
    rw [raise_eq, bind_eq_of_ok (thrownValue_eq failure)]
    refine throwTraced_of_not_isError fun ref hobject => ?_
    exact eq_false_of_ne_true fun herror => hv ⟨ref, hobject, herror⟩

theorem exists_raised (h : M.LooksEnd handler) (failure : Failure) (w : World M κ ω) :
    ∃ w', Raised handler failure w w' :=
  exists_raised_of_traced fun ref _ _ => exists_traced h failure ref _

theorem exists_lookedUp (h : M.LooksEnd handler) (v : ScriptValue) (name : Units)
    (w : World M κ ω) : ∃ value w', LookedUp handler v name w value w' := by
  obtain ⟨object, w₁, hobject⟩ := h (.toObject v) w
  cases object with
  | error failure =>
    obtain ⟨w', hraised⟩ := exists_raised h failure w₁
    exact ⟨none, w', .noObject hobject hraised⟩
  | ok ref =>
    obtain ⟨answer, w₂, hhas⟩ := h (.has ref name) w₁
    cases answer with
    | error failure =>
      obtain ⟨w', hraised⟩ := exists_raised h failure w₂
      exact ⟨none, w', .noAnswer hobject hhas hraised⟩
    | ok found =>
      obtain ⟨value, w₃, hget⟩ := h (.get ref name) w₂
      cases value with
      | error failure =>
        obtain ⟨w', hraised⟩ := exists_raised h failure w₃
        exact ⟨none, w', .noValue hobject hhas hget hraised⟩
      | ok u => exact ⟨some u, w₃, .found hobject hhas hget⟩

/-! ## What it is for the primitives -/

theorem displayText_of_printed {v : ScriptValue} {text : Option String} {w : World M κ ω}
    {index : Nat} (hv : s.slots[index]? = some v) (h : Printed handler v s.world text w) :
    ∃ shown, (displayText index : Stacked M κ ω ε (Option (List UInt8))) handler s =
      .ok shown { s with world := w } ∧ shown.map Text.fromEngineTextLossy = text := by
  unfold displayText
  cases h with
  | @text _ us h =>
    refine ⟨some (Text.encodeUnits us), ?_, ?_⟩
    · simp only [Stacked.read, bind_apply, hv, act_of_ended h]
      rfl
    · rw [Option.map_some, Text.fromEngineTextLossy, Text.decodeUnits_encodeUnits]
  | thrown h =>
    refine ⟨none, ?_, rfl⟩
    simp only [Stacked.read, bind_apply, hv, act_of_ended h]
    rfl

theorem slot_of_getElem? {v : ScriptValue} {index : Nat} (hv : s.slots[index]? = some v) :
    slot index handler s = .ok v s := by
  simp only [slot, Stacked.read, bind_apply, hv]
  rfl

theorem dup_of_getElem? {v : ScriptValue} {index : Nat} (hv : s.slots[index]? = some v) :
    dup index handler s = .ok () { s with slots := s.slots.push v } := by
  unfold dup
  rw [bind_eq_of_ok (slot_of_getElem? hv)]
  rfl

theorem perform_of_ok {f : M.State → Act M.State α} {a : α} {w : World M κ ω}
    (h : (f s.world.machine).drive handler s.world = .ended (.ok a) w) :
    perform f handler s = .ok a { s with world := w } := by
  unfold perform
  rw [bind_eq_of_ok (act_of_ended h)]
  rfl

theorem perform_ends_of_ok {f : M.State → Act M.State α} {a : α} {w : World M κ ω}
    {ok : α → Session M κ ω → Prop} {error : EngineError → Session M κ ω → Prop}
    (h : (f s.world.machine).drive handler s.world = .ended (.ok a) w)
    (hok : ok a { s with world := w }) : (perform f).ends handler ok error s := by
  unfold ends
  rw [perform_of_ok h]
  exact hok

theorem perform_of_raised {f : M.State → Act M.State α} {failure : Failure} {w w' : World M κ ω}
    (h : (f s.world.machine).drive handler s.world = .ended (.error failure) w)
    (hraised : Raised handler failure w w') :
    ∃ v, perform f handler s = .error .thrown ⟨w', s.slots.push v, s.poison⟩ := by
  obtain ⟨v, hraise⟩ := hraised
  refine ⟨v, ?_⟩
  unfold perform
  rw [bind_eq_of_ok (act_of_ended h)]
  exact hraise α s.slots s.poison

/-- One value is put on top, the property or what was thrown. -/
theorem getProp_of_lookedUp {v : ScriptValue} {name : Units} {value : Option ScriptValue}
    {w : World M κ ω} {index : Nat} {key : List UInt8} (hkey : Text.decodeUnits key = name)
    (hv : s.slots[index]? = some v) (h : LookedUp handler v name s.world value w) :
    match value with
    | some u => ∃ found, getProp index key handler s = .ok found ⟨w, s.slots.push u, s.poison⟩
    | none => ∃ u, getProp index key handler s = .error .thrown ⟨w, s.slots.push u, s.poison⟩ := by
  have hslot : slot index handler s = .ok v s := by
    simp only [slot, Stacked.read, bind_apply, hv]
    rfl
  subst hkey
  unfold getProp
  rw [bind_eq_of_ok hslot]
  cases h with
  | @found w₁ w₂ _ ref found u hobject hhas hget =>
    refine ⟨found, ?_⟩
    rw [bind_eq_of_ok (perform_of_ok hobject)]
    rw [bind_eq_of_ok (perform_of_ok (s := { s with world := w₁ }) hhas)]
    rw [bind_eq_of_ok (perform_of_ok (s := { s with world := w₂ }) hget)]
    rfl
  | noObject hobject hraised =>
    obtain ⟨u, hthrown⟩ := perform_of_raised hobject hraised
    exact ⟨u, bind_eq_of_error hthrown⟩
  | @noAnswer w₁ _ _ ref failure hobject hhas hraised =>
    rw [bind_eq_of_ok (perform_of_ok hobject)]
    obtain ⟨u, hthrown⟩ := perform_of_raised (s := { s with world := w₁ }) hhas hraised
    exact ⟨u, bind_eq_of_error hthrown⟩
  | @noValue w₁ w₂ _ _ ref found failure hobject hhas hget hraised =>
    rw [bind_eq_of_ok (perform_of_ok hobject)]
    rw [bind_eq_of_ok (perform_of_ok (s := { s with world := w₁ }) hhas)]
    obtain ⟨u, hthrown⟩ := perform_of_raised (s := { s with world := w₂ }) hget hraised
    exact ⟨u, bind_eq_of_error hthrown⟩

/-! ## A primitive that ends -/

variable {ok : α → Session M κ ω → Prop} {error : EngineError → Session M κ ω → Prop}

theorem ended_of_ends_act {ok : Except Failure α → Session M κ ω → Prop}
    {error : ε → Session M κ ω → Prop} {f : M.State → Act M.State α}
    (h : (act f : Stacked M κ ω ε (Except Failure α)).ends handler ok error s) :
    ∃ result w, (f s.world.machine).drive handler s.world = .ended result w ∧
      ok result { s with world := w } := by
  unfold ends act at h
  cases hd : (f s.world.machine).drive handler s.world with
  | ended result w => rw [hd] at h; exact ⟨result, w, rfl, h⟩
  | panicked payload w => rw [hd] at h; exact h.elim
  | exhausted => rw [hd] at h; exact h.elim

theorem exists_traced_of_ends {failure : Failure} {ref : Ref} {ok : Unit → Session M κ ω → Prop}
    (h : (recordTrace failure ref : Stacked M κ ω EngineError Unit).ends handler ok error s) :
    ∃ w', Traced handler failure ref s.world w' := by
  unfold recordTrace at h
  rw [ends_bind] at h
  obtain ⟨result, w₁, hown, hrest⟩ := ended_of_ends_act h
  by_cases hresult : result = .ok false
  · subst hresult
    simp only [ends_bind, ends_read] at hrest
    obtain ⟨_, w₂, hdefine, -⟩ := ended_of_ends_act hrest
    exact ⟨w₂, .recorded hown hdefine⟩
  · exact ⟨w₁, .kept hown hresult⟩

theorem exists_raised_of_ends {failure : Failure}
    (h : (raise failure : Stacked M κ ω EngineError α).ends handler ok error s) :
    ∃ w', Raised handler failure s.world w' := by
  refine exists_raised_of_traced fun ref hobject herror => ?_
  unfold ends at h
  rw [raise_eq, bind_eq_of_ok (thrownValue_eq failure), hobject] at h
  change (throwTraced failure (.object ref) : Stacked M κ ω EngineError α).ends
    handler ok error _ at h
  unfold throwTraced at h
  simp only [ends_bind, ends_read, herror, if_true] at h
  exact exists_traced_of_ends h

/-- An operation that is carried out to its end has answered, or has thrown. -/
theorem ended_of_ends_perform {f : M.State → Act M.State α}
    (h : (perform f).ends handler ok error s) :
    (∃ a w, (f s.world.machine).drive handler s.world = .ended (.ok a) w ∧
      ok a { s with world := w }) ∨
    ∃ failure w w', (f s.world.machine).drive handler s.world = .ended (.error failure) w ∧
      Raised handler failure w w' := by
  unfold perform at h
  rw [ends_bind] at h
  obtain ⟨result, w, hend, hrest⟩ := ended_of_ends_act h
  cases result with
  | ok a => exact .inl ⟨a, w, hend, hrest⟩
  | error failure =>
    obtain ⟨w', hraised⟩ := exists_raised_of_ends hrest
    exact .inr ⟨failure, w, w', hend, hraised⟩

theorem exists_printed_of_ends {v : ScriptValue} {index : Nat}
    {ok : Option (List UInt8) → Session M κ ω → Prop} {error : ε → Session M κ ω → Prop}
    (hv : s.slots[index]? = some v)
    (h : (displayText index : Stacked M κ ω ε (Option (List UInt8))).ends handler ok error s) :
    ∃ text w', Printed handler v s.world text w' := by
  unfold displayText at h
  simp only [ends_bind, ends_read, hv] at h
  obtain ⟨result, w, hend, -⟩ := ended_of_ends_act h
  cases result with
  | ok us => exact ⟨_, w, .text hend⟩
  | error failure => exact ⟨_, w, .thrown hend⟩

theorem exists_lookedUp_of_ends {v : ScriptValue} {name : Units} {index : Nat} {key : List UInt8}
    {ok : Bool → Session M κ ω → Prop} (hkey : Text.decodeUnits key = name)
    (hv : s.slots[index]? = some v) (h : (getProp index key).ends handler ok error s) :
    ∃ value w', LookedUp handler v name s.world value w' := by
  subst hkey
  unfold getProp slot at h
  simp only [ends_bind, ends_read, ends_pure, hv] at h
  rcases ended_of_ends_perform h with ⟨ref, w₁, hobject, h⟩ | ⟨failure, w₁, w', hobject, hraised⟩
  · rcases ended_of_ends_perform h with ⟨found, w₂, hhas, h⟩ | ⟨failure, w₂, w', hhas, hraised⟩
    · rcases ended_of_ends_perform h with ⟨u, w₃, hget, -⟩ | ⟨failure, w₃, w', hget, hraised⟩
      · exact ⟨some u, w₃, .found hobject hhas hget⟩
      · exact ⟨none, w', .noValue hobject hhas hget hraised⟩
    · exact ⟨none, w', .noAnswer hobject hhas hraised⟩
  · exact ⟨none, w', .noObject hobject hraised⟩

end Stack

end ScriptHost
