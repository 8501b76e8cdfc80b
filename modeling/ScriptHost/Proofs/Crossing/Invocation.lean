import ScriptHost.Proofs.Crossing.HostErrors

/-!
# What a call from script does

The arguments are converted one after the other, the host function is run on what came of them and
asks for its receiver as often as it likes, and the value that it returns is converted back.  All of
this happens on the stack of the call, the receiver with the arguments above it.  Each conversion
works on a copy on top and leaves that stack as it was, so that the slots of the arguments stay
valid, whatever script is run in between.

* `Yields`, `YieldsAll`, `StopsAt`: one value, all of them,
  and the first at which something else happens;
* `CarriesOut`: the run of a host function, with its receiver;
* `Invoked`: **how a call comes out**, and `runNative_of_invoked`: it does come out so.
-/

namespace ScriptHost

open Stack Stacked Crossing

variable {M : Machine} {δ : Type}

/-- A new error is thrown into the script. -/
def NativeResult.throwing {κ ω : Type} (kind : ErrorKind) (message : String) (w : World M κ ω) :
    NativeResult M κ ω :=
  let made := M.newError kind (Text.units message) w.machine
  .ended (.error (.object made.1)) { w with machine := made.2 }

namespace Crossing

/-! ## Conversions on the stack of a call -/

section

variable (m : Marshaller) (handler : Handler M BoundFunction (HostState δ))
  (slots : Array ScriptValue)

/-- The value is converted on top of the slots, or its conversion fails,
and only the slots are left. -/
def Yields (x : ScriptValue) (w : World M BoundFunction (HostState δ))
    (result : Except Error HostValue) (w' : World M BoundFunction (HostState δ)) : Prop :=
  (m.pop.attempt : Crossing M δ EngineError (Except Error HostValue)) handler
    ⟨w, slots.push x, none⟩ = .ok result ⟨w', slots, none⟩

/-- A host function that is called in the course of the conversion panics, or the machine does. -/
def Panics (x : ScriptValue) (w : World M BoundFunction (HostState δ)) (payload : Payload)
    (w' : World M BoundFunction (HostState δ)) : Prop :=
  m.pop handler ⟨w, slots.push x, none⟩ = .panicked payload w'

/-- The values are converted from left to right, each in the world that the last one has left. -/
inductive YieldsAll : List ScriptValue → World M BoundFunction (HostState δ) → List HostValue →
    World M BoundFunction (HostState δ) → Prop
  | nil (w : World M BoundFunction (HostState δ)) : YieldsAll [] w [] w
  | cons {x : ScriptValue} {xs : List ScriptValue} {v : HostValue} {vs : List HostValue}
      {w w₁ w₂ : World M BoundFunction (HostState δ)} (hx : Yields m handler slots x w (.ok v) w₁)
      (hxs : YieldsAll xs w₁ vs w₂) : YieldsAll (x :: xs) w (v :: vs) w₂

/-- The values are converted from left to right as far as one at which something else happens.
Those behind it are not looked at. -/
inductive StopsAt (stop : ScriptValue → World M BoundFunction (HostState δ) →
    World M BoundFunction (HostState δ) → Prop) :
    List ScriptValue → World M BoundFunction (HostState δ) →
      World M BoundFunction (HostState δ) → Prop
  | intro {before after : List ScriptValue} {x : ScriptValue} {vs : List HostValue}
      {w w₁ w₂ : World M BoundFunction (HostState δ)}
      (hbefore : YieldsAll m handler slots before w vs w₁) (hx : stop x w₁ w₂) :
      StopsAt stop (before ++ x :: after) w w₂

/-- One of the values is the first that cannot be converted, for this error. -/
abbrev Refuses (e : Error) : List ScriptValue → World M BoundFunction (HostState δ) →
    World M BoundFunction (HostState δ) → Prop :=
  StopsAt m handler slots fun x w w' => Yields m handler slots x w (.error e) w'

/-- One of the values is the first whose conversion ends in a panic. -/
abbrev Breaks (payload : Payload) : List ScriptValue → World M BoundFunction (HostState δ) →
    World M BoundFunction (HostState δ) → Prop :=
  StopsAt m handler slots fun x w w' => Panics m handler slots x w payload w'

/-- The run of a host function on the receiver `this`.  Each time that it asks for the receiver, the
same value is converted anew, and it is told what comes of that. -/
inductive CarriesOut (this : ScriptValue) : HostRun (HostState δ) →
    World M BoundFunction (HostState δ) → Except Payload HostResult →
      World M BoundFunction (HostState δ) → Prop
  | returned (v : HostValue) (host : HostState δ) (w : World M BoundFunction (HostState δ)) :
      CarriesOut this (.returned v host) w (.ok (.returned v)) { w with host := host }
  | failed (failure : HostFailure) (host : HostState δ) (w : World M BoundFunction (HostState δ)) :
      CarriesOut this (.failed failure host) w (.ok (.failed failure)) { w with host := host }
  | panicked (payload : Payload) (host : HostState δ) (w : World M BoundFunction (HostState δ)) :
      CarriesOut this (.panicked payload host) w (.error payload) { w with host := host }
  | asked {host : HostState δ} {next : Except Error HostValue → HostState δ → HostRun (HostState δ)}
      {w w₁ w₂ : World M BoundFunction (HostState δ)} {told : Except Error HostValue}
      {result : Except Payload HostResult}
      (hthis : Yields m handler slots this { w with host := host } told w₁)
      (hrest : CarriesOut this (next told w₁.host) w₁ result w₂) :
      CarriesOut this (.askThis host next) w result w₂
  | askedInVain {host : HostState δ}
      {next : Except Error HostValue → HostState δ → HostRun (HostState δ)}
      {w w₁ : World M BoundFunction (HostState δ)} {payload : Payload}
      (hthis : Panics m handler slots this { w with host := host } payload w₁) :
      CarriesOut this (.askThis host next) w (.error payload) w₁

end

/-! ## Calls -/

/-- All arguments are converted, and the host function is run, once, on what has come of them. -/
inductive RunsOn (functions : HostFunctions δ) (handler : Handler M BoundFunction (HostState δ))
    (c : NativeCall M BoundFunction (HostState δ)) (result : Except Payload HostResult) :
    World M BoundFunction (HostState δ) → Prop
  | intro {args : List HostValue} {w w' : World M BoundFunction (HostState δ)}
      (hargs : YieldsAll c.function.marshaller handler c.entry.slots c.args c.world args w)
      (hrun : CarriesOut c.function.marshaller handler c.entry.slots c.this
        (functions c.function.function args w.host) w result w') :
      RunsOn functions handler c result w'

/-- **How a call comes out**, with nested calls answered by the handler. -/
inductive Invoked (functions : HostFunctions δ) (handler : Handler M BoundFunction (HostState δ))
    (c : NativeCall M BoundFunction (HostState δ)) : NativeResult M BoundFunction (HostState δ) →
      Prop
  /-- The host function is not run. -/
  | refused {e : Error} {w : World M BoundFunction (HostState δ)}
      (hargs : Refuses c.function.marshaller handler c.entry.slots e c.args c.world w) :
      Invoked functions handler c (.throwing .typeError e.message w)
  | returned {v : HostValue} {x : ScriptValue} {w w' : World M BoundFunction (HostState δ)}
      (hrun : RunsOn functions handler c (.ok (.returned v)) w)
      (hpush : c.function.marshaller.push v handler ⟨w, c.entry.slots, none⟩ =
        .ok () ⟨w', c.entry.slots.push x, none⟩) :
      Invoked functions handler c (.ended (.ok x) w')
  /-- The value that was returned cannot be converted. -/
  | unreturned {v : HostValue} {e : Error} {w w' : World M BoundFunction (HostState δ)}
      (hrun : RunsOn functions handler c (.ok (.returned v)) w)
      (hpush : c.function.marshaller.push v handler ⟨w, c.entry.slots, none⟩ =
        .error e ⟨w', c.entry.slots, none⟩) :
      Invoked functions handler c (.throwing .typeError e.message w')
  | failed {failure : HostFailure} {w : World M BoundFunction (HostState δ)}
      (hrun : RunsOn functions handler c (.ok (.failed failure)) w) :
      Invoked functions handler c (.throwing failure.kind failure.message w)
  /-- The host function panics, or the conversion of its receiver does. -/
  | panicked {payload : Payload} {w : World M BoundFunction (HostState δ)}
      (hrun : RunsOn functions handler c (.error payload) w) :
      Invoked functions handler c (.panicked payload w)
  | argumentPanicked {payload : Payload} {w : World M BoundFunction (HostState δ)}
      (hargs : Breaks c.function.marshaller handler c.entry.slots payload c.args c.world w) :
      Invoked functions handler c (.panicked payload w)
  | resultPanicked {v : HostValue} {payload : Payload} {w w' : World M BoundFunction (HostState δ)}
      (hrun : RunsOn functions handler c (.ok (.returned v)) w)
      (hpush : c.function.marshaller.push v handler ⟨w, c.entry.slots, none⟩ =
        .panicked payload w') :
      Invoked functions handler c (.panicked payload w')

/-! ## The program of a call -/

/-- What is made of the end of a host function. -/
def answer (m : Marshaller) : HostResult → Crossing M δ EngineError Bool
  | .returned v => do
    match ← (m.push v).attempt with
    | .ok () => pure true
    | .error e => throwInto .typeError e
  | .failed failure =>
    match failure.error? with
    | some e => throwInto (kindOf e) e
    | none => do
      pushError .error failure.text
      .fail .thrown

/-- The function is run on the arguments, if they could be converted. -/
def runOn (functions : HostFunctions δ) (bound : BoundFunction) :
    Except Error (List HostValue) → Crossing M δ EngineError Bool
  | .error e => throwInto .typeError e
  | .ok args => do
    let host ← Stacked.read fun s => s.world.host
    carryOut bound.marshaller (functions bound.function args host) >>= answer bound.marshaller

theorem invoke_eq (functions : HostFunctions δ) (bound : BoundFunction) :
    (invoke functions bound : Crossing M δ EngineError Bool) =
      depth >>= fun n => readArguments bound.marshaller (n - 1) 1 >>= runOn functions bound := by
  unfold invoke
  congr 1

theorem readArguments_succ (m : Marshaller) (count next : Nat) :
    (readArguments m (count + 1) next : Crossing M δ EngineError _) =
      (dup next >>= fun _ => m.pop.attempt) >>= fun arg => match arg with
        | .error e => pure (.error e)
        | .ok v => Except.map (v :: ·) <$> readArguments m count (next + 1) := by
  rw [bind_assoc, readArguments]
  congr 1
  funext _
  congr 1
  funext arg
  cases arg with
  | error e => rfl
  | ok v =>
    dsimp only
    rw [map_eq_pure_bind]
    congr 1
    funext rest
    cases rest with
    | error e => rfl
    | ok rest => rfl

section

variable {m : Marshaller} {handler : Handler M BoundFunction (HostState δ)}
  {slots : Array ScriptValue} {w w' : World M BoundFunction (HostState δ)} {next : Nat}

/-- The values are in the slots from `next` on. -/
def StandFrom (slots : Array ScriptValue) (next : Nat) (xs : List ScriptValue) : Prop :=
  ∀ i x, xs[i]? = some x → slots[next + i]? = some x

theorem StandFrom.head {x : ScriptValue} {xs : List ScriptValue}
    (h : StandFrom slots next (x :: xs)) : slots[next]? = some x := h 0 x rfl

theorem StandFrom.tail {x : ScriptValue} {xs : List ScriptValue}
    (h : StandFrom slots next (x :: xs)) : StandFrom slots (next + 1) xs := by
  intro i y hy
  rw [Nat.add_assoc, Nat.add_comm 1]
  exact h (i + 1) y hy

theorem StandFrom.left {xs ys : List ScriptValue} (h : StandFrom slots next (xs ++ ys)) :
    StandFrom slots next xs := by
  intro i x hx
  have hi : i < xs.length := (List.getElem?_eq_some_iff.mp hx).1
  exact h i x ((List.getElem?_append_left hi).trans hx)

theorem StandFrom.right {xs ys : List ScriptValue} (h : StandFrom slots next (xs ++ ys)) :
    StandFrom slots (next + xs.length) ys := by
  intro i y hy
  rw [Nat.add_assoc]
  exact h (xs.length + i) y
    (by rw [List.getElem?_append_right (by omega), Nat.add_sub_cancel_left, hy])

theorem standFrom_entry (c : NativeCall M BoundFunction (HostState δ)) :
    StandFrom c.entry.slots 1 c.args := by
  intro i x hx
  simpa [NativeCall.entry, Nat.add_comm 1] using hx

theorem this_entry (c : NativeCall M BoundFunction (HostState δ)) :
    c.entry.slots[0]? = some c.this := by
  simp [NativeCall.entry]

theorem dup_pop_of_yields {x : ScriptValue} {result : Except Error HostValue}
    (hslot : slots[next]? = some x) (hx : Yields m handler slots x w result w') :
    (dup next >>= fun _ => m.pop.attempt : Crossing M δ EngineError _) handler ⟨w, slots, none⟩ =
      .ok result ⟨w', slots, none⟩ := by
  rw [bind_eq_of_ok (dup_of_getElem? (s := ⟨w, slots, none⟩) hslot)]
  exact hx

theorem readThis_eq {this : ScriptValue} (hslot : slots[0]? = some this) :
    (readThis m : Crossing M δ Error HostValue) handler ⟨w, slots, none⟩ =
      m.pop handler ⟨w, slots.push this, none⟩ :=
  bind_eq_of_ok (mapError_of_ok (dup_of_getElem? (s := ⟨w, slots, none⟩) hslot))

/-- Behind arguments that are converted come the others. -/
theorem readArguments_append {xs : List ScriptValue} {vs : List HostValue}
    (hxs : YieldsAll m handler slots xs w vs w') (hslots : StandFrom slots next xs) (count : Nat) :
    (readArguments m (xs.length + count) next : Crossing M δ EngineError _) handler
    ⟨w, slots, none⟩ =
      (Except.map (vs ++ ·) <$> readArguments m count (next + xs.length)) handler
        ⟨w', slots, none⟩ := by
  induction hxs generalizing next with
  | nil w =>
    have hid : Except.map (fun rest : List HostValue => [] ++ rest) =
        (id : Except Error _ → _) := by
      funext rest
      cases rest <;> rfl
    rw [List.length_nil, Nat.zero_add, Nat.add_zero, hid, id_map]
  | @cons x xs v vs w w₁ w₂ hx hxs ih =>
    have hmap : Except.map (fun rest : List HostValue => v :: vs ++ rest) =
        (Except.map (v :: ·) ∘ Except.map (vs ++ ·) : Except Error _ → _) := by
      funext rest
      cases rest <;> rfl
    rw [List.length_cons, Nat.add_right_comm, readArguments_succ,
      bind_eq_of_ok (dup_pop_of_yields hslots.head hx), hmap, comp_map, ← Nat.add_assoc,
      Nat.add_right_comm next]
    exact map_congr_apply _ (ih hslots.tail)

theorem readArguments_of_yieldsAll {xs : List ScriptValue} {vs : List HostValue}
    (hxs : YieldsAll m handler slots xs w vs w') (hslots : StandFrom slots next xs) :
    (readArguments m xs.length next : Crossing M δ EngineError _) handler ⟨w, slots, none⟩ =
      .ok (.ok vs) ⟨w', slots, none⟩ := by
  refine (readArguments_append hxs hslots 0).trans ?_
  rw [readArguments, map_pure, Except.map, List.append_nil]
  rfl

theorem readArguments_of_refuses {xs : List ScriptValue} {e : Error}
    (h : Refuses m handler slots e xs w w') (hslots : StandFrom slots next xs) :
    (readArguments m xs.length next : Crossing M δ EngineError _) handler ⟨w, slots, none⟩ =
      .ok (.error e) ⟨w', slots, none⟩ := by
  obtain ⟨hbefore, hx⟩ := h
  rw [List.length_append, List.length_cons, readArguments_append hbefore hslots.left,
    readArguments_succ, map_eq_pure_bind, bind_assoc,
    bind_eq_of_ok (dup_pop_of_yields hslots.right.head hx)]
  rfl

theorem readArguments_of_breaks {xs : List ScriptValue} {payload : Payload}
    (h : Breaks m handler slots payload xs w w') (hslots : StandFrom slots next xs) :
    (readArguments m xs.length next : Crossing M δ EngineError _) handler ⟨w, slots, none⟩ =
      .panicked payload w' := by
  cases h with
  | @intro before after x vs _ w₁ _ hbefore hx =>
    have hdup : (dup (next + before.length) : Crossing M δ EngineError Unit) handler
        ⟨w₁, slots, none⟩ = .ok () ⟨w₁, slots.push x, none⟩ :=
      dup_of_getElem? (s := ⟨w₁, slots, none⟩) hslots.right.head
    rw [List.length_append, List.length_cons, readArguments_append hbefore hslots.left,
      readArguments_succ, map_eq_pure_bind, bind_assoc, bind_assoc, bind_eq_of_ok hdup]
    exact bind_eq_of_panicked (attempt_of_panicked hx)

theorem carryOut_askThis (m : Marshaller) (host : HostState δ)
    (next : Except Error HostValue → HostState δ → HostRun (HostState δ))
    (s : Session M BoundFunction (HostState δ)) :
    (carryOut m (.askThis host next) : Crossing M δ EngineError HostResult) handler s =
      ((readThis m).attempt >>= fun this => Stacked.read (fun s => s.world.host) >>= fun host =>
        carryOut m (next this host)) handler { s with world := { s.world with host := host } } :=
  rfl

/-- The end of a run as that of the program that carries it out. -/
def endOf (slots : Array ScriptValue) (w : World M BoundFunction (HostState δ)) :
    Except Payload HostResult → Outcome M BoundFunction (HostState δ) EngineError HostResult
  | .ok result => .ok result ⟨w, slots, none⟩
  | .error payload => .panicked payload w

theorem carryOut_of_carriesOut {this : ScriptValue} (hslot : slots[0]? = some this)
    {run : HostRun (HostState δ)} {result : Except Payload HostResult}
    (h : CarriesOut m handler slots this run w result w') :
    (carryOut m run : Crossing M δ EngineError HostResult) handler ⟨w, slots, none⟩ =
      endOf slots w' result := by
  induction h with
  | returned v host w => rfl
  | failed failure host w => rfl
  | panicked payload host w => rfl
  | @asked host next w w₁ w₂ told result hthis hrest ih =>
    have hread : ((readThis m).attempt : Crossing M δ EngineError _) handler
        ⟨{ w with host := host }, slots, none⟩ = .ok told ⟨w₁, slots, none⟩ := by
      rw [attempt, readThis_eq hslot]
      exact hthis
    exact (carryOut_askThis m host next _).trans ((bind_eq_of_ok hread).trans ih)
  | @askedInVain host next w w₁ payload hthis =>
    have hread : ((readThis m).attempt : Crossing M δ EngineError _) handler
        ⟨{ w with host := host }, slots, none⟩ = .panicked payload w₁ :=
      attempt_of_panicked ((readThis_eq hslot).trans hthis)
    exact (carryOut_askThis m host next _).trans (bind_eq_of_panicked hread)

theorem ofOutcome_thrown (v : ScriptValue) :
    NativeResult.ofOutcome (.error .thrown ⟨w, slots.push v, none⟩) = .ended (.error v) w := by
  simp [NativeResult.ofOutcome, topOrUndefined]

theorem ofOutcome_throwInto (kind : ErrorKind) (e : Error) :
    NativeResult.ofOutcome ((throwInto kind e : Crossing M δ EngineError Bool) handler
      ⟨w, slots, none⟩) = .throwing kind e.message w := by
  rw [throwInto_eq rfl]
  exact ofOutcome_thrown _

theorem answer_failed (failure : HostFailure) :
    (answer m (.failed failure) : Crossing M δ EngineError Bool) handler ⟨w, slots, none⟩ =
      .error .thrown ⟨(failure.madeIn w).2, slots.push (.object (failure.madeIn w).1), none⟩ :=
  throw_eq_madeIn (s := ⟨w, slots, none⟩) rfl failure

end

/-! ## A call comes out as its parts do -/

section

variable {functions : HostFunctions δ} {handler : Handler M BoundFunction (HostState δ)}
  {c : NativeCall M BoundFunction (HostState δ)} {w : World M BoundFunction (HostState δ)}

theorem invoke_entry : invoke functions c.function handler c.entry =
    (readArguments c.function.marshaller c.args.length 1 >>= runOn functions c.function) handler
      c.entry := by
  rw [invoke_eq, bind_eq_of_ok
    (show depth handler c.entry = .ok c.entry.slots.size c.entry from rfl)]
  simp [NativeCall.entry]

theorem invoke_of_runsOn {result : Except Payload HostResult}
    (h : RunsOn functions handler c result w) :
    invoke functions c.function handler c.entry = match result with
      | .ok result => answer c.function.marshaller result handler ⟨w, c.entry.slots, none⟩
      | .error payload => .panicked payload w := by
  cases h with
  | @intro args w₁ _ hargs hrun =>
    have hread : (Stacked.read (fun s => s.world.host) : Crossing M δ EngineError (HostState δ))
      handler ⟨w₁, c.entry.slots, none⟩ = .ok w₁.host ⟨w₁, c.entry.slots, none⟩ := rfl
    have hcarried := carryOut_of_carriesOut (this_entry c) hrun
    rw [invoke_entry]
    refine (bind_eq_of_ok (readArguments_of_yieldsAll hargs (standFrom_entry c))).trans
      ((bind_eq_of_ok hread).trans ?_)
    cases result with
    | ok result => exact bind_eq_of_ok hcarried
    | error payload => exact bind_eq_of_panicked hcarried

/-- **A call comes out as its parts do.** -/
theorem runNative_of_invoked {result : NativeResult M BoundFunction (HostState δ)}
    (h : Invoked functions handler c result) :
    runNative (invoke functions) handler c.function c.this c.args c.world = result := by
  show NativeResult.ofOutcome (invoke functions c.function handler c.entry) = result
  cases h with
  | refused hargs =>
    have hread := readArguments_of_refuses hargs (standFrom_entry c)
    rw [invoke_entry]
    exact (congrArg _ (bind_eq_of_ok hread)).trans (ofOutcome_throwInto .typeError _)
  | returned hrun hpush =>
    rw [invoke_of_runsOn hrun]
    dsimp only [answer]
    rw [bind_eq_of_ok (attempt_of_ok hpush)]
    show NativeResult.ended (.ok (topOrUndefined _)) _ = _
    simp [topOrUndefined]
  | unreturned hrun hpush =>
    rw [invoke_of_runsOn hrun]
    dsimp only [answer]
    rw [bind_eq_of_ok (attempt_of_error hpush)]
    exact ofOutcome_throwInto .typeError _
  | failed hrun =>
    rw [invoke_of_runsOn hrun]
    exact (congrArg _ (answer_failed _)).trans (ofOutcome_thrown _)
  | panicked hrun =>
    rw [invoke_of_runsOn hrun]
    rfl
  | argumentPanicked hargs =>
    have hread := readArguments_of_breaks hargs (standFrom_entry c)
    rw [invoke_entry]
    exact congrArg _ (bind_eq_of_panicked hread)
  | resultPanicked hrun hpush =>
    rw [invoke_of_runsOn hrun]
    dsimp only [answer]
    rw [bind_eq_of_panicked (attempt_of_panicked hpush)]
    rfl

end

end Crossing

end ScriptHost
