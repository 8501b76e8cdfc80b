import ScriptHost.Proofs.Crossing.Callback
import ScriptHost.Proofs.Crossing.Classified
import ScriptHost.Proofs.Machine.Errors
import ScriptHost.Proofs.Stack.Uncaught

/-!
# Errors of host functions

The failure of a host function is thrown into the script as a new error, of which only the kind and
the message come from the failure; if such an error is thrown out of the script as it was made,
these two decide what is reported.

* `HostFailure.kind`, `HostFailure.message`: what is made of a failure;
* `HostFails`: a call whose function was run and failed, and `answered_of_hostFails`: **script is
  thrown an error**, whatever else goes on;
* `ErrorStore.classified`: the report of an error that is as it was made;
* `Resurfaces`: **what a failure is reported as**, and `exists_resurfaces`.
-/

namespace ScriptHost

open Stack Stacked Crossing

variable {M : Machine} {κ ω δ α : Type}

namespace HostFailure

/-- The kind of the error that is thrown into the script. -/
def kind (failure : HostFailure) : ErrorKind :=
  match failure.error? with
  | some e => kindOf e
  | none => .error

/-- The message of the error that is thrown into the script.  The contexts are part of it only where
none of them is an error of this library, and the innermost failure is none either. -/
def message (failure : HostFailure) : String :=
  match failure.error? with
  | some e => e.message
  | none => failure.text

/-- The error that is thrown into the script, and the world in which it has been made. -/
def madeIn (failure : HostFailure) (w : World M κ ω) : Ref × World M κ ω :=
  let made := M.newError failure.kind (Text.units failure.message) w.machine
  (made.1, { w with machine := made.2 })

theorem error?_of_chain {failure : HostFailure} {messages : List String} {e : Error}
    {rest : List (Error ⊕ String)} (h : failure.chain = messages.map .inr ++ .inl e :: rest) :
    failure.error? = some e := by
  have hmessages : (messages.map (Sum.inr (α := Error))).findSome? Sum.getLeft? = none := by simp
  rw [error?, h, List.findSome?_append, hmessages]
  rfl

/-- A failure is thrown as the outermost error of this library in it, whatever messages stand around
that one and whatever stands below it. -/
theorem madeIn_of_chain {failure : HostFailure} {messages : List String} {e : Error}
    {rest : List (Error ⊕ String)} (h : failure.chain = messages.map .inr ++ .inl e :: rest)
    (w : World M κ ω) : failure.madeIn w = madeIn ⟨[], .inl e⟩ w := by
  have hplain : error? ⟨[], .inl e⟩ = some e := rfl
  simp only [madeIn, kind, message, error?_of_chain h, hplain]

end HostFailure

/-! ## Into the script -/

/-- In this call, below which calls may nest `depth` deep, the arguments can be converted, and the
host function is run on them and fails; `w` is the world by then. -/
inductive HostFails (functions : HostFunctions δ) (depth : Nat)
    (c : NativeCall M BoundFunction (HostState δ)) (failure : HostFailure) :
    World M BoundFunction (HostState δ) → Prop
  | intro {args : List HostValue} {s s' : Session M BoundFunction (HostState δ)}
      (hargs : (readArguments c.function.marshaller c.args.length 1 : Crossing M δ EngineError _)
        (nestedHandler (invoke functions) depth) c.entry = .ok (.ok args) s)
      (hrun : carryOut c.function.marshaller (functions c.function.function args s.world.host)
        (nestedHandler (invoke functions) depth) s = .ok (.failed failure) s') :
      HostFails functions depth c failure s'.world

section

variable {handler : Handler M BoundFunction (HostState δ)}
  {s : Session M BoundFunction (HostState δ)} {functions : HostFunctions δ}

theorem throwInto_eq (hp : s.poison = none) (kind : ErrorKind) (e : Error) :
    (throwInto kind e : Crossing M δ EngineError Bool) handler s =
      (pushError kind e.message >>= fun _ => fail .thrown) handler s := by
  have hpoisoned : (isPoisoned : Crossing M δ EngineError Bool) handler s = .ok false s := by
    simp [isPoisoned, Stacked.read, hp]
  exact bind_eq_of_ok hpoisoned

theorem throw_eq_madeIn (hp : s.poison = none) (failure : HostFailure) :
    (match failure.error? with
      | some e => throwInto (kindOf e) e
      | none => pushError .error failure.text >>= fun _ => fail .thrown :
        Crossing M δ EngineError Bool) handler s =
      .error .thrown ⟨(failure.madeIn s.world).2,
        s.slots.push (.object (failure.madeIn s.world).1), s.poison⟩ := by
  unfold HostFailure.madeIn HostFailure.kind HostFailure.message
  cases failure.error? with
  | some e => exact throwInto_eq hp _ e
  | none => rfl

theorem invoke_of_failed {bound : BoundFunction} {args : List HostValue}
    {s₁ s₂ : Session M BoundFunction (HostState δ)} {failure : HostFailure}
    (hargs : (readArguments bound.marshaller (s.slots.size - 1) 1 : Crossing M δ EngineError _)
      handler s = .ok (.ok args) s₁)
    (hrun : carryOut bound.marshaller (functions bound.function args s₁.world.host) handler s₁ =
      .ok (.failed failure) s₂) (hp : s₂.poison = none) :
    (invoke functions bound : Crossing M δ EngineError Bool) handler s =
      .error .thrown ⟨(failure.madeIn s₂.world).2,
        s₂.slots.push (.object (failure.madeIn s₂.world).1), s₂.poison⟩ := by
  unfold invoke
  rw [bind_eq_of_ok (show depth handler s = .ok s.slots.size s from rfl), bind_eq_of_ok hargs]
  dsimp only
  have hhost : (Stacked.read (fun s => s.world.host) : Crossing M δ EngineError (HostState δ))
    handler s₁ = .ok s₁.world.host s₁ := rfl
  rw [bind_eq_of_ok hhost, bind_eq_of_ok hrun]
  exact throw_eq_madeIn hp failure

variable {depth : Nat} {c : NativeCall M BoundFunction (HostState δ)} {failure : HostFailure}
  {w : World M BoundFunction (HostState δ)}

/-- **The script is thrown an error**; nothing is aborted, as the function's stack is in order all
the time. -/
theorem answered_of_hostFails (hM : M.KeepsArrays) (h : HostFails functions depth c failure w) :
    nestedHandler (invoke functions) (depth + 1) c.function c.this c.args c.world =
      .ended (.error (.object (failure.madeIn w).1)) (failure.madeIn w).2 := by
  -- Calls below this one may panic, but then the arguments would not have been read.
  have T := trust_nestedHandler_always hM functions depth
  cases h with
  | @intro args s s' hargs hrun =>
    have hcount : c.entry.slots.size = c.args.length + 1 := by simp [NativeCall.entry]
    have hread := readArguments_spec (E := fun _ _ => True) T rfl c.function.marshaller
      c.args.length 1 (by omega) (.refl c.entry)
    have htolerated : (functions c.function.function args s.world.host).NeverPanics ∨
      LetsPanic (always (M := M) (δ := δ)) := .inr fun _ _ => trivial
    have hcarried := carryOut_spec (E := fun _ _ => True) T rfl c.function.marshaller (by omega)
      htolerated (ok_of_wp hread hargs)
    have hs' : c.entry.Becomes c.entry.slots s' := ok_of_wp hcarried hrun
    have hpoison : s'.poison = none := hs'.poison
    have hinvoke := invoke_of_failed (s := c.entry) (by rwa [hcount]) hrun hpoison
    show NativeResult.ofOutcome
      (invoke functions c.function (nestedHandler (invoke functions) depth) c.entry) = _
    rw [hinvoke]
    simp [NativeResult.ofOutcome, topOrUndefined, hpoison]

end

/-! ## Out of the script -/

namespace ErrorStore

variable {E : ErrorStore M} (handler : Handler M κ ω) {w : World M κ ω} {ref : Ref}
  {kind : ErrorKind} {message : Units}

/-- On an error that is as it was made a trace is recorded, and nothing else happens to it. -/
theorem exists_traced (hp : E.pristine w.machine) (hm : E.isMade w.machine ref kind message none)
    (failure : Failure) : ∃ trace w', Traced handler failure ref w w' ∧ E.pristine w'.machine ∧
      E.isMade w'.machine ref kind message (some trace) := by
  obtain ⟨s', hdefine, hp', hm'⟩ := E.defineHidden (M.traceText w.machine failure) hp hm
  have hown : (M.hasOwn ref (Text.units "stack") w.machine).drive handler w =
      .ended (.ok false) w := by
    rw [E.hasOwn hm]
    rfl
  have hrecord : (M.defineHidden ref (Text.units "stack") (.string (M.traceText w.machine failure))
      w.machine).drive handler w = .ended (.ok ()) { w with machine := s' } := by
    rw [hdefine]
    rfl
  exact ⟨_, _, .recorded hown hrecord, hp', hm'⟩

/-- What it shows can be read. -/
theorem readAsText {trace : Option Units} {key : String} {text : Units} (hp : E.pristine w.machine)
    (hm : E.isMade w.machine ref kind message trace)
    (hshows : ErrorShows kind message trace key text) :
    ReadAsText handler (.object ref) (Text.units key) w (some (Text.pairUnitsLossy text)) w := by
  have hobject : (M.toObject (.object ref) w.machine).drive handler w = .ended (.ok ref) w := by
    rw [E.toObject hm]
    rfl
  have hhas : (M.has ref (Text.units key) w.machine).drive handler w = .ended (.ok true) w := by
    rw [E.has hp hm hshows]
    rfl
  have hget : (M.get ref (Text.units key) w.machine).drive handler w =
      .ended (.ok (.string text)) w := by
    rw [E.get hp hm hshows]
    rfl
  have hprinted : (M.toText (.string text) w.machine).drive handler w = .ended (.ok text) w := by
    rw [E.toText]
    rfl
  exact .printed rfl (.found hobject hhas hget) (by simp) (.text hprinted)

theorem classified {message : String} {trace : Units} {e : Error} (hp : E.pristine w.machine)
    (hm : E.isMade w.machine ref kind (Text.units message) (some trace))
    (he : Reported (some kind.name) message (some (Text.pairUnitsLossy trace)) e) :
    Classified handler (.object ref) w e w := by
  have hname := readAsText handler hp hm .name
  have hmessage := readAsText handler hp hm .message
  rw [Text.pairUnitsLossy_units] at hname hmessage
  exact .intro hname hmessage (readAsText handler hp hm (.trace rfl)) (.own message) he

end ErrorStore

/-- What an error of this library that a host function has failed with is reported
as, if nobody catches it. -/
inductive Error.Resurfaces : Error → Error → Prop
  | reference (message : String) : Resurfaces (.reference message) (.reference message)
  | typeError (message : String) : Resurfaces (.typeError message) (.typeError message)
  | argumentType (message : String) : Resurfaces (.argumentType message) (.typeError message)
  | malformedSource (message : String) :
      Resurfaces (.malformedSource message) (.malformedSource message)
  /-- The name is lost. -/
  | script (name message : String) (inner trace : Option String) :
      Resurfaces (.script name message inner) (.script "Error" message trace)
  | encoding (e : Text.EncodingError) (trace : Option String) :
      Resurfaces (.encoding e) (.script "Error" e.message trace)
  | internal (message : String) (trace : Option String) :
      Resurfaces (.internal message) (.script "Error" message trace)

/-- **What the failure of a host function is reported as**, if nobody catches it: as the error of
this library that it counts as, or with the texts of all its contexts from the outside in. -/
inductive Resurfaces (failure : HostFailure) : Error → Prop
  | error {inner e : Error} (hinner : failure.error? = some inner) (he : inner.Resurfaces e) :
      Resurfaces failure e
  | other (hnone : failure.error? = none) (trace : Option String) :
      Resurfaces failure (.script "Error" failure.text trace)

/-- What is reported for an error of the kind and with the message of the failure. -/
theorem exists_resurfaces (failure : HostFailure) (trace : Option String) :
    ∃ e, Reported (some failure.kind.name) failure.message trace e ∧ Resurfaces failure e := by
  have hscript (message : String) :
      Reported (some "Error") message trace (.script "Error" message trace) :=
    .script message trace (by simp)
  unfold HostFailure.kind HostFailure.message
  cases hinner : failure.error? with
  | none => exact ⟨_, hscript _, .other hinner trace⟩
  | some inner =>
    cases inner with
    | reference message => exact ⟨_, .reference message trace, .error hinner (.reference message)⟩
    | typeError message => exact ⟨_, .typeError message trace, .error hinner (.typeError message)⟩
    | argumentType message =>
        exact ⟨_, .typeError message trace, .error hinner (.argumentType message)⟩
    | malformedSource message =>
      exact ⟨_, .malformedSource message trace, .error hinner (.malformedSource message)⟩
    | script name message inner =>
      exact ⟨_, hscript message, .error hinner (.script name message inner trace)⟩
    | encoding e => exact ⟨_, hscript e.message, .error hinner (.encoding e trace)⟩
    | internal message => exact ⟨_, hscript message, .error hinner (.internal message trace)⟩

end ScriptHost
