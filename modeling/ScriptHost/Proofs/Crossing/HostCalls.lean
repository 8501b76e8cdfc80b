import ScriptHost.Proofs.Crossing.Calling
import ScriptHost.Proofs.Crossing.HostErrors
import ScriptHost.Proofs.Crossing.LookUp
import ScriptHost.Proofs.Stack.Logged

/-!
# Calls that the host makes

With a function and a receiver on top, the arguments are converted from left to right, the function
is called on them, and its result is converted.  Each of these steps may fail, and then none of the
later ones is taken.  To say how often the function is called, the program is given notes: one is
written right before the machine is told to call.

* `HostCall`: the note, and `callWithNoted`, which without its notes is `callWith`;
* `Reports`, `Raises`: what a thrown value, and the failure of an operation, come out as;
* `ConveysAll`, `ArgumentStops`: all arguments, and the first at which something else happens;
* `CallsWith`: **how a call comes out, with the calls that were made**, and `callsWith_noted`.
-/

namespace ScriptHost

open Stack Stacked Crossing

variable {M : Machine} {κ ω ε ε' δ α β γ : Type}

/-! ## Runs with an end and without -/

/-- The run has not come to an end, and so is the run of which it is a part: a panic has broken it
off, or it was longer than is allowed. -/
inductive Outcome.Unended : Outcome M κ ω ε α → Outcome M κ ω ε' β → Prop
  | panicked (payload : Payload) (w : World M κ ω) : Unended (.panicked payload w)
      (.panicked payload w)
  | exhausted : Unended .exhausted .exhausted

theorem Outcome.Unended.not_error {o : Outcome M κ ω ε α} {e : ε'} {s : Session M κ ω} :
    ¬ o.Unended (.error e s : Outcome M κ ω ε' β) := by
  rintro ⟨⟩

theorem Outcome.Unended.again {o : Outcome M κ ω ε α} {o' : Outcome M κ ω ε' β} (h : o.Unended o') :
    ∃ o'' : Outcome M κ ω ε' γ, o'.Unended o'' := by
  cases h with
  | panicked payload w => exact ⟨_, .panicked payload w⟩
  | exhausted => exact ⟨_, .exhausted⟩

namespace Stacked

variable {handler : Handler M κ ω} {s : Session M κ ω}

theorem ends_or_unended (x : Stacked M κ ω ε α) (handler : Handler M κ ω) (s : Session M κ ω) :
    x.ends handler (fun _ _ => True) (fun _ _ => True) s ∨
      ∃ o : Outcome M κ ω ε' β, (x handler s).Unended o := by
  unfold ends
  cases x handler s with
  | ok a s' => exact .inl trivial
  | error e s' => exact .inl trivial
  | panicked payload w => exact .inr ⟨_, .panicked payload w⟩
  | exhausted => exact .inr ⟨_, .exhausted⟩

theorem bind_eq_of_unended {x : Stacked M κ ω ε α} {f : α → Stacked M κ ω ε β}
    {o : Outcome M κ ω ε β} (h : (x handler s).Unended o) : (x >>= f) handler s = o := by
  rw [bind_apply]
  cases hx : x handler s <;> rw [hx] at h <;> cases h <;> rfl

theorem unended_bind {x : Stacked M κ ω ε α} {f : α → Stacked M κ ω ε γ}
    {o : Outcome M κ ω ε' β} (h : (x handler s).Unended o) : ((x >>= f) handler s).Unended o := by
  rw [bind_apply]
  cases hx : x handler s <;> rw [hx] at h <;> cases h <;> constructor

theorem attempt_unended {x : Stacked M κ ω ε α} {o : Outcome M κ ω ε' β}
    (h : (x handler s).Unended o) :
    ((x.attempt : Stacked M κ ω ε' (Except ε α)) handler s).Unended o := by
  rw [attempt]
  cases hx : x handler s <;> rw [hx] at h <;> cases h <;> constructor

end Stacked

namespace Logged

variable {ν : Type} {handler : Handler M κ ω} {s s' : Session M κ ω}

theorem quietly_bind_of_ok {x : Stacked M κ ω ε α} {f : α → Logged M κ ω ν ε β} {a : α}
    (h : x handler s = .ok a s') : (quietly x >>= f) handler s = f a handler s' := by
  show Logged.bind (quietly x) f handler s = _
  unfold Logged.bind quietly
  rw [h]
  exact Prod.ext (List.nil_append _) rfl

theorem quietly_bind_of_error {x : Stacked M κ ω ε α} {f : α → Logged M κ ω ν ε β} {e : ε}
    (h : x handler s = .error e s') : (quietly x >>= f) handler s = ([], .error e s') := by
  show Logged.bind (quietly x) f handler s = _
  unfold Logged.bind quietly
  rw [h]

theorem quietly_bind_of_unended {x : Stacked M κ ω ε α} {f : α → Logged M κ ω ν ε β}
    {o : Outcome M κ ω ε β} (h : (x handler s).Unended o) :
    (quietly x >>= f) handler s = ([], o) := by
  show Logged.bind (quietly x) f handler s = _
  unfold Logged.bind quietly
  cases hx : x handler s <;> rw [hx] at h <;> cases h <;> rfl

theorem attempt_bind_quietly {x : Logged M κ ω ν ε α} {y : Stacked M κ ω ε α} {log : List ν}
    (h : x handler s = (log, y handler s')) (f : Except ε α → Stacked M κ ω ε' β) :
    (x.attempt >>= fun result => quietly (f result)) handler s =
      (log, (y.attempt >>= f) handler s') := by
  show Logged.bind x.attempt (fun result => quietly (f result)) handler s = _
  unfold Logged.bind Logged.attempt
  rw [h, bind_apply, Stacked.attempt]
  cases y handler s' with
  | ok a t => exact Prod.ext (List.append_nil log) rfl
  | error e t => exact Prod.ext (List.append_nil log) rfl
  | panicked payload w => rfl
  | exhausted => rfl

end Logged

/-! ## The notes -/

/-- A call that the host makes: the function, its receiver and its arguments. -/
structure HostCall where
  function : Ref
  this : ScriptValue
  args : List ScriptValue

namespace Crossing

/-- What becomes of the end of a primitive that is checked. -/
def sorted : Except EngineError α → Crossing M δ Error α
  | .ok a => pure a
  | .error e => classify e

theorem check_eq (x : Crossing M δ EngineError α) : check x = x.attempt >>= sorted := by
  unfold check
  refine bind_congr fun result => ?_
  cases result with
  | ok a => rfl
  | error e => rfl

end Crossing

namespace Context

open Logged

/-- `callTaken` with a note right before the machine is told to call. -/
def callTakenNoted (function this : ScriptValue) (args : List ScriptValue) :
    Logged M κ ω HostCall EngineError Unit := do
  let callee? ← quietly (Stacked.read fun s => match function with
    | .object ref => if M.shape s.world.machine ref = .function then some ref else none
    | _ => none)
  match callee? with
  | none => quietly do
    pushError .typeError "not callable"
    .fail .thrown
  | some ref =>
    note ⟨ref, this, args⟩
    quietly do
      let v ← perform (M.call ref this args)
      pushValue v

/-- `callWith` with a note of each call. -/
def callWithNoted (m : Marshaller) (args : List HostValue) :
    Logged M BoundFunction (HostState δ) HostCall Error HostValue := do
  quietly (pushArguments m args)
  let called ← Logged.attempt do
    let (function, this, xs) ← quietly (takeCall args.length)
    callTakenNoted function this xs
  quietly do
    sorted called
    m.pop

theorem erased_callTakenNoted (function this : ScriptValue) (args : List ScriptValue) :
    (callTakenNoted function this args : Logged M κ ω HostCall EngineError Unit).erased =
      callTaken function this args := by
  unfold callTakenNoted callTaken
  simp only [erased_bind, erased_quietly]
  refine bind_congr fun callee? => ?_
  cases callee? with
  | none => rfl
  | some ref => simp only [erased_bind, erased_quietly, erased_note, pure_bind]

/-- **Without its notes it is the call.** -/
theorem erased_callWithNoted (m : Marshaller) (args : List HostValue) :
    (callWithNoted m args : Logged M BoundFunction (HostState δ) HostCall Error HostValue).erased =
      callWith m args := by
  unfold callWithNoted callWith
  simp only [erased_bind, erased_quietly, erased_attempt, erased_callTakenNoted, callMethod_eq,
    check_eq, bind_assoc]

/-- The value is an object that can be called, this one. -/
def Callee (s : M.State) (function : ScriptValue) (ref : Ref) : Prop :=
  function = .object ref ∧ M.shape s ref = .function

section

variable {handler : Handler M κ ω} {s : Session M κ ω} {function this : ScriptValue}
  {args : List ScriptValue} {ref : Ref}

theorem callTakenNoted_of_callee (h : Callee s.world.machine function ref) :
    (callTakenNoted function this args : Logged M κ ω HostCall EngineError Unit) handler s =
      ([⟨ref, this, args⟩], (perform (M.call ref this args) >>= pushValue) handler s) := by
  obtain ⟨rfl, hshape⟩ := h
  refine (quietly_bind_of_ok (?_ : _ = Outcome.ok (some ref) s)).trans rfl
  exact congrArg (Outcome.ok · s) (if_pos hshape)

theorem callTakenNoted_of_not_callee (h : ∀ ref, ¬ Callee s.world.machine function ref) :
    (callTakenNoted function this args : Logged M κ ω HostCall EngineError Unit) handler s =
      ([], (pushError .typeError "not callable" >>= fun _ => fail .thrown) handler s) := by
  refine (quietly_bind_of_ok (?_ : _ = Outcome.ok none s)).trans rfl
  refine congrArg (Outcome.ok · s) ?_
  cases function with
  | object ref => exact if_neg fun hshape => h ref ⟨rfl, hshape⟩
  | _ => rfl

end

end Context

/-! ## What is reported -/

section

variable (handler : Handler M BoundFunction (HostState δ)) (below : Array ScriptValue)

/-- What a thrown value comes out as, once it was thrown over these slots: its error, unless the
script that is run to find it does not come to an end. -/
inductive Reports (v : ScriptValue) (w : World M BoundFunction (HostState δ)) :
    Outcome M BoundFunction (HostState δ) Error α → Prop
  | classified {e : Error} {w' : World M BoundFunction (HostState δ)}
      (h : Classified handler v w e w') : Reports v w (.error e ⟨w', below, none⟩)
  | unended {o : Outcome M BoundFunction (HostState δ) Error α}
      (h : ((classify .thrown : Crossing M δ Error Unit) handler
        ⟨w, below.push v, none⟩).Unended o) :
      Reports v w o

/-- What an operation of the machine comes out as whose result is put on top of these slots, for
`next` to go on with it. -/
inductive Operates (f : M.State → Act M.State ScriptValue)
    (next : ScriptValue → World M BoundFunction (HostState δ) →
      Outcome M BoundFunction (HostState δ) Error α → Prop)
      (w : World M BoundFunction (HostState δ)) :
    Outcome M BoundFunction (HostState δ) Error α → Prop
  | returned {v : ScriptValue} {w' : World M BoundFunction (HostState δ)}
      {o : Outcome M BoundFunction (HostState δ) Error α}
      (hrun : (f w.machine).drive handler w = .ended (.ok v) w') (hnext : next v w' o) :
      Operates f next w o
  | threw {failure : Failure} {v : ScriptValue} {w₁ w₂ : World M BoundFunction (HostState δ)}
      {o : Outcome M BoundFunction (HostState δ) Error α}
      (hrun : (f w.machine).drive handler w = .ended (.error failure) w₁)
      (hthrown : ThrownAs handler failure w₁ v w₂) (h : Reports handler below v w₂ o) :
      Operates f next w o
  /-- The operation does not come to an end, or to record the trace of its failure does not. -/
  | unended {o : Outcome M BoundFunction (HostState δ) Error α}
      (h : ((perform f : Crossing M δ EngineError ScriptValue) handler
        ⟨w, below, none⟩).Unended o) :
      Operates f next w o

/-- What it comes out as that there is nothing to call.  The error for that is made like one of the
script's, and reported like one: as the type error that it was made as, while nobody has tampered
with the prototypes of errors. -/
structure NotCallable (w : World M BoundFunction (HostState δ))
    (o : Outcome M BoundFunction (HostState δ) Error α) : Prop where
  reports : let made := M.newError .typeError (Text.units "not callable") w.machine
    Reports handler below (.object made.1) { w with machine := made.2 } o
  asMade : ∀ (E : ErrorStore M) e s, E.pristine w.machine → o = .error e s →
    e = .typeError "not callable"

end

section

variable {handler : Handler M BoundFunction (HostState δ)}
  {v : ScriptValue} {w w' w'' : World M BoundFunction (HostState δ)}

/-- What is thrown is classified, and nothing comes after that. -/
theorem reports_classify (handler : Handler M BoundFunction (HostState δ))
    (below : Array ScriptValue) (v : ScriptValue) (w : World M BoundFunction (HostState δ))
    (g : Unit → Crossing M δ Error α) : Reports handler below v w
      ((classify .thrown >>= g) handler ⟨w, below.push v, none⟩) := by
  rcases ends_or_unended (classify .thrown : Crossing M δ Error Unit) handler
    ⟨w, below.push v, none⟩ with hends | ⟨o, h⟩
  · rcases outcome_of_ends hends with ⟨a, s, hrun, -⟩ | ⟨e, ⟨w', slots, poison⟩, hrun, -⟩
    · exact absurd hrun (fails_classify _ _ _ _ _)
    · obtain ⟨hclassified, hmoves⟩ := classified_of_classify (s := ⟨w, below.push v, none⟩) rfl hrun
      obtain rfl : poison = none := hmoves.poison
      obtain rfl : slots = below := hmoves.unchanged rfl
      rw [bind_eq_of_error hrun]
      exact .classified hclassified
  · rw [bind_eq_of_unended h]
    exact .unended h

/-- An operation that is checked comes out so. -/
theorem operates_check (handler : Handler M BoundFunction (HostState δ)) (below : Array ScriptValue)
    (f : M.State → Act M.State ScriptValue) (g : Unit → Crossing M δ Error α)
    (w : World M BoundFunction (HostState δ)) :
    Operates handler below f (fun v w' o => g () handler ⟨w', below.push v, none⟩ = o) w
      ((check (perform f >>= pushValue) >>= g) handler ⟨w, below, none⟩) := by
  rw [check_eq, bind_assoc]
  rcases ends_or_unended (perform f : Crossing M δ EngineError ScriptValue) handler
    ⟨w, below, none⟩ with hends | ⟨o, h⟩
  · rcases answered_or_thrown hends with ⟨v, w', hrun, -⟩ | ⟨failure, v, w₁, w₂, hrun, hthrown⟩
    · refine .returned hrun ?_
      have hpush : (perform f >>= pushValue : Crossing M δ EngineError Unit) handler
          ⟨w, below, none⟩ = .ok () ⟨w', below.push v, none⟩ :=
        bind_eq_of_ok (perform_of_ok (s := ⟨w, below, none⟩) hrun)
      rw [bind_eq_of_ok (attempt_of_ok hpush)]
      rfl
    · have hpush : (perform f >>= pushValue : Crossing M δ EngineError Unit) handler
          ⟨w, below, none⟩ = .error .thrown ⟨w₂, below.push v, none⟩ :=
        bind_eq_of_error (perform_of_thrownAs (s := ⟨w, below, none⟩) hrun hthrown)
      rw [bind_eq_of_ok (attempt_of_error hpush)]
      exact .threw hrun hthrown (reports_classify handler below v w₂ g)
  · rw [bind_eq_of_unended (attempt_unended (unended_bind h))]
    exact .unended h

/-- A property of a value can be read in only one way. -/
theorem readAsText_unique {key : String} {text text' : Option String}
    (h : ReadAsText handler v (Text.units key) w text w')
    (h' : ReadAsText handler v (Text.units key) w text' w'') : text = text' ∧ w' = w'' := by
  have hread {text : Option String} {w₁ : World M BoundFunction (HostState δ)}
      (h : ReadAsText handler v (Text.units key) w text w₁) :
      (objectText 0 (SlotType.ofValue (M.shape w.machine) v) key :
        Crossing M δ Error (Option String)).comesTo handler ⟨w, #[v], none⟩ text w₁ :=
    objectText_of_readAsText (s := ⟨w, #[v], none⟩) rfl h
  obtain ⟨s, hrun, hs⟩ := hread h
  obtain ⟨s', hrun', hs'⟩ := hread h'
  obtain ⟨rfl, rfl⟩ : text = text' ∧ s = s' := by simpa using hrun.symm.trans hrun'
  exact ⟨rfl, hs.world.symm.trans hs'.world⟩

/-- A type error that is as it was made is reported as it was made, whatever its trace may be. -/
theorem typeError_of_made {E : ErrorStore M} {ref : Ref} {message : String} {trace : Option Units}
    {e : Error} (hp : E.pristine w.machine)
    (hm : E.isMade w.machine ref .typeError (Text.units message) trace)
    (h : Classified handler (.object ref) w e w') : e = .typeError message := by
  obtain ⟨hname, hown, -, hmessage, he⟩ := h
  have hkind := E.readAsText handler hp hm .name
  have htext := E.readAsText handler hp hm .message
  rw [Text.pairUnitsLossy_units] at hkind htext
  obtain ⟨rfl, rfl⟩ := readAsText_unique hname hkind
  obtain ⟨rfl, -⟩ := readAsText_unique hown htext
  cases hmessage
  exact he.eq.symm

/-- What is made of nothing to call. -/
theorem notCallable_classify (handler : Handler M BoundFunction (HostState δ))
    (below : Array ScriptValue) (w : World M BoundFunction (HostState δ))
    (g : Unit → Crossing M δ Error α) :
    let made := M.newError .typeError (Text.units "not callable") w.machine
    NotCallable handler below w ((classify .thrown >>= g) handler
      ⟨{ w with machine := made.2 }, below.push (.object made.1), none⟩) := by
  intro made
  have hreports := reports_classify handler below (.object made.1)
    { w with machine := made.2 } g
  refine ⟨hreports, fun E e s hp ho => ?_⟩
  obtain ⟨hp', hm⟩ := E.newError .typeError (Text.units "not callable") hp
  generalize (classify .thrown >>= g) handler
    ⟨{ w with machine := made.2 }, below.push (.object made.1), none⟩ = o at hreports ho
  subst ho
  cases hreports with
  | classified h => exact typeError_of_made (w := { w with machine := made.2 }) hp' hm h
  | unended h => exact absurd h Outcome.Unended.not_error

end

/-! ## Arguments -/

section

variable (m : Marshaller) (handler : Handler M BoundFunction (HostState δ))

/-- The arguments are converted from left to right, and the value of each is put on
top of the slots. -/
inductive ConveysAll : Array ScriptValue → List HostValue → World M BoundFunction (HostState δ) →
    List ScriptValue → World M BoundFunction (HostState δ) → Prop
  | nil (slots : Array ScriptValue) (w : World M BoundFunction (HostState δ)) :
      ConveysAll slots [] w [] w
  | cons {slots : Array ScriptValue} {v : HostValue} {vs : List HostValue} {x : ScriptValue}
      {xs : List ScriptValue} {w w₁ w₂ : World M BoundFunction (HostState δ)}
      (hv : m.push v handler ⟨w, slots, none⟩ = .ok () ⟨w₁, slots.push x, none⟩)
      (hvs : ConveysAll (slots.push x) vs w₁ xs w₂) : ConveysAll slots (v :: vs) w (x :: xs) w₂

/-- One of the arguments is the first whose conversion fails, or does not come to an end.  Those
behind it are not converted. -/
inductive ArgumentStops (slots : Array ScriptValue) (args : List HostValue)
    (w : World M BoundFunction (HostState δ)) : Outcome M BoundFunction (HostState δ) Error α → Prop
  | refused {before after : List HostValue} {v : HostValue} {xs : List ScriptValue}
      {w₁ : World M BoundFunction (HostState δ)} {e : Error}
      {s : Session M BoundFunction (HostState δ)} (hargs : args = before ++ v :: after)
      (hbefore : ConveysAll m handler slots before w xs w₁)
      (hv : m.push v handler ⟨w₁, slots ++ xs.toArray, none⟩ = .error e s) :
      ArgumentStops slots args w (.error e s)
  | unended {before after : List HostValue} {v : HostValue} {xs : List ScriptValue}
      {w₁ : World M BoundFunction (HostState δ)} {o : Outcome M BoundFunction (HostState δ) Error α}
      (hargs : args = before ++ v :: after) (hbefore : ConveysAll m handler slots before w xs w₁)
      (hv : (m.push v handler ⟨w₁, slots ++ xs.toArray, none⟩).Unended o) :
      ArgumentStops slots args w o

/-- **How a call comes out**, with the calls that are made in its course. -/
inductive CallsWith (below : Array ScriptValue) (function this : ScriptValue)
    (args : List HostValue) (w : World M BoundFunction (HostState δ)) :
    List HostCall → Outcome M BoundFunction (HostState δ) Error HostValue → Prop
  | unconveyed {o : Outcome M BoundFunction (HostState δ) Error HostValue}
      (hargs : ArgumentStops m handler ((below.push function).push this) args w o) :
      CallsWith below function this args w [] o
  | notCallable {xs : List ScriptValue} {w₁ : World M BoundFunction (HostState δ)}
      {o : Outcome M BoundFunction (HostState δ) Error HostValue}
      (hargs : ConveysAll m handler ((below.push function).push this) args w xs w₁)
      (hfunction : ∀ ref, ¬ Context.Callee w₁.machine function ref)
      (h : NotCallable handler below w₁ o) : CallsWith below function this args w [] o
  | called {xs : List ScriptValue} {w₁ : World M BoundFunction (HostState δ)} {ref : Ref}
      {o : Outcome M BoundFunction (HostState δ) Error HostValue}
      (hargs : ConveysAll m handler ((below.push function).push this) args w xs w₁)
      (hfunction : Context.Callee w₁.machine function ref)
      (h : Operates handler below (M.call ref this xs)
        (fun result w₂ o => m.pop handler ⟨w₂, below.push result, none⟩ = o) w₁ o) :
      CallsWith below function this args w [⟨ref, this, xs⟩] o

end

section

variable {m : Marshaller} {handler : Handler M BoundFunction (HostState δ)}
  {slots below : Array ScriptValue} {args : List HostValue} {xs : List ScriptValue}
  {w w' : World M BoundFunction (HostState δ)}

theorem CallsWith.length_le {function this : ScriptValue} {calls : List HostCall}
    {o : Outcome M BoundFunction (HostState δ) Error HostValue}
    (h : CallsWith m handler below function this args w calls o) : calls.length ≤ 1 := by
  cases h with
  | unconveyed => exact Nat.zero_le 1
  | notCallable => exact Nat.zero_le 1
  | called => exact Nat.le_refl 1

theorem ConveysAll.length_eq (h : ConveysAll m handler slots args w xs w') :
    xs.length = args.length := by
  induction h with
  | nil => rfl
  | cons _ _ ih => exact congrArg (· + 1) ih

theorem ArgumentStops.cons {v : HostValue} {x : ScriptValue}
    {w₁ : World M BoundFunction (HostState δ)} {o : Outcome M BoundFunction (HostState δ) Error α}
    (hv : m.push v handler ⟨w, slots, none⟩ = .ok () ⟨w₁, slots.push x, none⟩)
    (h : ArgumentStops m handler (slots.push x) args w₁ o) :
    ArgumentStops m handler slots (v :: args) w o := by
  have happend (xs : List ScriptValue) :
      slots.push x ++ xs.toArray = slots ++ (x :: xs).toArray := by simp
  cases h with
  | refused hargs hbefore hstop =>
    exact .refused (congrArg (v :: ·) hargs) (.cons hv hbefore) (happend _ ▸ hstop)
  | unended hargs hbefore hstop =>
    exact .unended (congrArg (v :: ·) hargs) (.cons hv hbefore) (happend _ ▸ hstop)

namespace Context

/-- Behind arguments that are converted come the others. -/
theorem pushArguments_append (h : ConveysAll m handler slots args w xs w') (rest : List HostValue) :
    (pushArguments m (args ++ rest) : Crossing M δ Error Unit) handler ⟨w, slots, none⟩ =
      pushArguments m rest handler ⟨w', slots ++ xs.toArray, none⟩ := by
  induction h with
  | nil slots w => simp
  | @cons slots v vs x xs w w₁ w₂ hv _ ih =>
    rw [List.cons_append, pushArguments, bind_eq_of_ok hv, ih]
    simp

theorem pushArguments_of_conveysAll (h : ConveysAll m handler slots args w xs w') :
    (pushArguments m args : Crossing M δ Error Unit) handler ⟨w, slots, none⟩ =
      .ok () ⟨w', slots ++ xs.toArray, none⟩ := by
  have happend := pushArguments_append h []
  rwa [List.append_nil] at happend

/-- Where the conversion of the arguments stops, nothing comes after it. -/
theorem pushArguments_of_stops {ν : Type} {o : Outcome M BoundFunction (HostState δ) Error α}
    (h : ArgumentStops m handler slots args w o)
    (f : Unit → Logged M BoundFunction (HostState δ) ν Error α) :
    (Logged.quietly (pushArguments m args) >>= f) handler ⟨w, slots, none⟩ = ([], o) := by
  cases h with
  | refused hargs hbefore hv =>
    rw [hargs]
    exact Logged.quietly_bind_of_error
      ((pushArguments_append hbefore _).trans (bind_eq_of_error hv))
  | unended hargs hbefore hv =>
    rw [hargs]
    refine Logged.quietly_bind_of_unended ?_
    rw [pushArguments_append hbefore]
    exact unended_bind hv

/-- All arguments are converted, or one of them is the first that is not. -/
theorem conveysAll_or_stops (m : Marshaller) (handler : Handler M BoundFunction (HostState δ))
    (args : List HostValue) (slots : Array ScriptValue) (w : World M BoundFunction (HostState δ)) :
    (∃ xs w', ConveysAll m handler slots args w xs w') ∨
      ∃ o : Outcome M BoundFunction (HostState δ) Error α,
        ArgumentStops m handler slots args w o := by
  induction args generalizing slots w with
  | nil => exact .inl ⟨[], w, .nil slots w⟩
  | cons v vs ih =>
    rcases ends_or_unended (β := α) (m.push v : Crossing M δ Error Unit) handler
      ⟨w, slots, none⟩ with hends | ⟨o, h⟩
    · rcases outcome_of_ends hends with ⟨_, ⟨w₁, slots', poison⟩, hv, -⟩ | ⟨e, s, hv, -⟩
      · obtain ⟨hp, us, hsize, hslots⟩ := ok_of_wp (m.adds_push v handler _) hv
        obtain ⟨x, rfl⟩ := Array.size_eq_one_iff.mp hsize
        obtain rfl : poison = none := hp
        obtain rfl : slots' = slots.push x := hslots.trans Array.push_eq_append.symm
        rcases ih (slots.push x) w₁ with ⟨xs, w', hvs⟩ | ⟨o, h⟩
        · exact .inl ⟨_, w', .cons hv hvs⟩
        · exact .inr ⟨o, h.cons hv⟩
      · have hfirst : ArgumentStops m handler slots ([] ++ v :: vs) w
            (.error e s : Outcome M BoundFunction (HostState δ) Error α) :=
          .refused rfl (.nil slots w) (by simpa using hv)
        exact .inr ⟨_, hfirst⟩
    · have hfirst : ArgumentStops m handler slots ([] ++ v :: vs) w o :=
        .unended rfl (.nil slots w) (by simpa using h)
      exact .inr ⟨o, hfirst⟩

/-- The arguments that were converted are taken off again, and then the call is made and its result
converted. -/
theorem callWithNoted_of_conveysAll {function this : ScriptValue} {log : List HostCall}
    {x : Crossing M δ EngineError Unit}
    (h : ConveysAll m handler ((below.push function).push this) args w xs w')
    (hx : callTakenNoted function this xs handler ⟨w', below, none⟩ =
      (log, x handler ⟨w', below, none⟩)) :
    callWithNoted m args handler ⟨w, (below.push function).push this, none⟩ =
      (log, (check x >>= fun _ => m.pop) handler ⟨w', below, none⟩) := by
  have htaken : (takeCall args.length : Crossing M δ EngineError _) handler
      ⟨w', (below.push function).push this ++ xs.toArray, none⟩ =
        .ok (function, this, xs) ⟨w', below, none⟩ := by
    rw [← h.length_eq, ← List.size_toArray]
    exact takeCall_of_append rfl
  unfold callWithNoted
  rw [Logged.quietly_bind_of_ok (pushArguments_of_conveysAll h), check_eq, bind_assoc]
  exact Logged.attempt_bind_quietly ((Logged.quietly_bind_of_ok htaken).trans hx) _

/-- **A call comes out as its parts do.** -/
theorem callsWith_noted (m : Marshaller) (handler : Handler M BoundFunction (HostState δ))
    (below : Array ScriptValue) (function this : ScriptValue) (args : List HostValue)
    (w : World M BoundFunction (HostState δ)) :
    let run := callWithNoted m args handler ⟨w, (below.push function).push this, none⟩
    CallsWith m handler below function this args w run.1 run.2 := by
  intro run
  rcases conveysAll_or_stops m handler args ((below.push function).push this) w with
    ⟨xs, w', hargs⟩ | ⟨o, hstops⟩
  · by_cases hcallee : ∃ ref, Callee w'.machine function ref
    · obtain ⟨ref, hcallee⟩ := hcallee
      have hrun : run = _ := callWithNoted_of_conveysAll hargs (callTakenNoted_of_callee hcallee)
      rw [hrun]
      exact .called hargs hcallee (operates_check handler below (M.call ref this xs)
        (fun _ => m.pop) w')
    · have hnot (ref : Ref) : ¬ Callee w'.machine function ref := fun h => hcallee ⟨ref, h⟩
      have hrun : run = _ := callWithNoted_of_conveysAll hargs (callTakenNoted_of_not_callee hnot)
      rw [hrun, check_eq, bind_assoc]
      exact .notCallable hargs hnot (notCallable_classify handler below w' fun _ => m.pop)
  · have hrun : run = ([], o) := pushArguments_of_stops hstops _
    rw [hrun]
    exact .unconveyed hstops

end Context

end

end ScriptHost
