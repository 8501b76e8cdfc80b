import ScriptHost.Proofs.Crossing.Discipline
import ScriptHost.Proofs.Crossing.Invocation

/-!
# Calls from script are answered

A call that comes to an end comes out as `Invoked` says, and a call comes to an end if the machine
does each time that it is asked for something.  Script goes on with the answer, which may be an
error that it catches; the engine is aborted only where a host function panics.

* `attempt_pop_wp`, `readArguments_wp`, `carryOut_wp`, `push_wp`: the parts of a call;
* `invoke_wp`: **a call comes out in one of these ways**;
* `runNative_ne_exhausted`: calls come to an end;
* `keeps_mayPanic`: **only the panic of a host function is a panic**;
* `calls_answered`: **calls from script**, all together.
-/

namespace ScriptHost

open Stack Stacked Crossing

variable {M : Machine} {δ : Type}

/-- The host function panics with the payload, if it is told the right things about its receiver. -/
inductive HostRun.MayPanic {ω : Type} (payload : Payload) : HostRun ω → Prop
  | panicked (host : ω) : MayPanic payload (.panicked payload host)
  | asked {host host' : ω} {next : Except Error HostValue → ω → HostRun ω}
      {told : Except Error HostValue} (h : MayPanic payload (next told host')) :
      MayPanic payload (.askThis host next)

/-- One of the host functions panics with the payload, on some arguments. -/
def HostFunctions.MayPanic (functions : HostFunctions δ) (payload : Payload) : Prop :=
  ∃ function args host, (functions function args host).MayPanic payload

namespace Crossing

/-! ## The parts of a call -/

section

variable {functions : HostFunctions δ} {handler : Handler M BoundFunction (HostState δ)}
  {broken : Payload → World M BoundFunction (HostState δ) → Prop} {m : Marshaller}
  {slots : Array ScriptValue} {c : NativeCall M BoundFunction (HostState δ)}
  {w w₁ w₂ : World M BoundFunction (HostState δ)}

theorem eq_of_becomes {s s' : Session M BoundFunction (HostState δ)} (hp : s.poison = none)
    (h : s.Becomes slots s') : s' = ⟨s'.world, slots, none⟩ := by
  obtain ⟨w', slots', poison⟩ := s'
  obtain rfl : slots' = slots := h.slots
  obtain rfl : poison = none := h.poison.trans hp
  rfl

/-- A conversion is carried out, or there is a panic. -/
theorem attempt_pop_wp (T : Trust handler broken) (m : Marshaller) (slots : Array ScriptValue)
    (x : ScriptValue) (w : World M BoundFunction (HostState δ)) :
    (m.pop.attempt : Crossing M δ EngineError _).wp handler
      ⟨fun result s' => s' = ⟨s'.world, slots, none⟩ ∧ Yields m handler slots x w result s'.world,
        fun _ _ => False,
        fun payload w' => broken payload w' ∧ Panics m handler slots x w payload w'⟩
      ⟨w, slots.push x, none⟩ := by
  have hspec := m.pop_spec (s := ⟨w, slots.push x, none⟩) T rfl (.refl _)
  rw [wp_attempt]
  unfold wp at hspec ⊢
  cases hrun : m.pop handler ⟨w, slots.push x, none⟩ with
  | ok v s' =>
    rw [hrun] at hspec
    have hs' := eq_of_becomes rfl hspec
    exact ⟨hs', attempt_of_ok (hs' ▸ hrun)⟩
  | error e s' =>
    rw [hrun] at hspec
    have hs' := eq_of_becomes rfl hspec.2
    exact ⟨hs', attempt_of_error (hs' ▸ hrun)⟩
  | panicked payload w' =>
    rw [hrun] at hspec
    exact ⟨hspec, hrun⟩
  | exhausted => trivial

theorem StopsAt.head {stop : ScriptValue → World M BoundFunction (HostState δ) →
      World M BoundFunction (HostState δ) → Prop} {x : ScriptValue} {xs : List ScriptValue}
    (hx : stop x w w₁) : StopsAt m handler slots stop (x :: xs) w w₁ :=
  .intro (.nil w) hx

theorem StopsAt.cons {stop : ScriptValue → World M BoundFunction (HostState δ) →
      World M BoundFunction (HostState δ) → Prop} {x : ScriptValue} {xs : List ScriptValue}
    {v : HostValue} (hx : Yields m handler slots x w (.ok v) w₁)
    (h : StopsAt m handler slots stop xs w₁ w₂) : StopsAt m handler slots stop (x :: xs) w w₂ := by
  obtain ⟨hbefore, hstop⟩ := h
  exact .intro (.cons hx hbefore) hstop

/-- All arguments are converted, or one is the first that is not. -/
def ReadsAs (m : Marshaller) (handler : Handler M BoundFunction (HostState δ))
    (slots : Array ScriptValue) (xs : List ScriptValue) (w : World M BoundFunction (HostState δ)) :
    Except Error (List HostValue) → World M BoundFunction (HostState δ) → Prop
  | .ok vs, w' => YieldsAll m handler slots xs w vs w'
  | .error e, w' => Refuses m handler slots e xs w w'

theorem readArguments_wp (T : Trust handler broken) (m : Marshaller) {xs : List ScriptValue}
    {next : Nat} (hslots : StandFrom slots next xs) (w : World M BoundFunction (HostState δ)) :
    (readArguments m xs.length next : Crossing M δ EngineError _).wp handler
      ⟨fun args s' => s' = ⟨s'.world, slots, none⟩ ∧ ReadsAs m handler slots xs w args s'.world,
        fun _ _ => False,
        fun payload w' => broken payload w' ∧ Breaks m handler slots payload xs w w'⟩
      ⟨w, slots, none⟩ := by
  induction xs generalizing next w with
  | nil => exact ⟨rfl, .nil w⟩
  | cons x xs ih =>
    have hdup : (dup next : Crossing M δ EngineError Unit) handler ⟨w, slots, none⟩ =
        .ok () ⟨w, slots.push x, none⟩ := dup_of_getElem? (s := ⟨w, slots, none⟩) hslots.head
    rw [List.length_cons, readArguments_succ, bind_assoc]
    refine wp_of_eq (bind_eq_of_ok hdup) ?_
    refine wp_bind_of (attempt_pop_wp T m slots x w) ?_ (fun _ _ h => h) fun payload w' h =>
      ⟨h.1, .head h.2⟩
    rintro arg s₁ ⟨hs₁, hx⟩
    cases arg with
    | error e => exact ⟨hs₁, .head hx⟩
    | ok v =>
      dsimp only
      rw [map_eq_pure_bind, hs₁]
      refine wp_bind_of (ih hslots.tail s₁.world) ?_ (fun _ _ h => h) fun payload w' h =>
        ⟨h.1, .cons hx h.2⟩
      rintro rest s₂ ⟨hs₂, hrest⟩
      cases rest with
      | error e => exact ⟨hs₂, .cons hx hrest⟩
      | ok vs => exact ⟨hs₂, .cons hx hrest⟩

theorem carryOut_wp (T : Trust handler broken) (m : Marshaller) {this : ScriptValue}
    (hslot : slots[0]? = some this) (run : HostRun (HostState δ))
    (w : World M BoundFunction (HostState δ)) :
    (carryOut m run : Crossing M δ EngineError HostResult).wp handler
      ⟨fun result s' => s' = ⟨s'.world, slots, none⟩ ∧
          CarriesOut m handler slots this run w (.ok result) s'.world,
        fun _ _ => False,
        fun payload w' => (run.MayPanic payload ∨ broken payload w') ∧
          CarriesOut m handler slots this run w (.error payload) w'⟩ ⟨w, slots, none⟩ := by
  induction run generalizing w with
  | returned v host => exact ⟨rfl, .returned v host w⟩
  | failed failure host => exact ⟨rfl, .failed failure host w⟩
  | panicked payload host => exact ⟨.inl (.panicked host), .panicked payload host w⟩
  | askThis host next ih =>
    have hread : ((readThis m).attempt : Crossing M δ EngineError _) handler
        ⟨{ w with host := host }, slots, none⟩ = m.pop.attempt handler
          ⟨{ w with host := host }, slots.push this, none⟩ := by
      rw [attempt, readThis_eq hslot, attempt]
    refine wp_of_eq (carryOut_askThis m host next _) ?_
    refine wp_bind_of (wp_of_eq hread (attempt_pop_wp T m slots this _)) ?_ (fun _ _ h => h)
      fun payload w' h => ⟨.inr h.1, .askedInVain h.2⟩
    rintro told s₁ ⟨hs₁, hthis⟩
    rw [wp_bind, wp_read, hs₁]
    refine wp_mono (ih told s₁.world.host s₁.world) ?_ (fun _ _ h => h) ?_
    · exact fun result s₂ h => ⟨h.1, .asked hthis h.2⟩
    · exact fun payload w' h => ⟨h.1.imp_left .asked, .asked hthis h.2⟩

/-- The value is converted back, or there is a panic. -/
theorem push_wp (T : Trust handler broken) (m : Marshaller) (slots : Array ScriptValue)
    (v : HostValue) (w : World M BoundFunction (HostState δ)) :
    (m.push v : Crossing M δ Error Unit).wp handler
      ⟨fun _ s' => ∃ x, m.push v handler ⟨w, slots, none⟩ = .ok () s' ∧
          s' = ⟨s'.world, slots.push x, none⟩,
        fun e s' => m.push v handler ⟨w, slots, none⟩ = .error e s' ∧ s' = ⟨s'.world, slots, none⟩,
        fun payload w' => broken payload w' ∧
          m.push v handler ⟨w, slots, none⟩ = .panicked payload w'⟩ ⟨w, slots, none⟩ := by
  have hspec := m.push_spec (s := ⟨w, slots, none⟩) T rfl v (.refl _)
  unfold wp at hspec ⊢
  cases hrun : m.push v handler ⟨w, slots, none⟩ with
  | ok _ s' =>
    rw [hrun] at hspec
    obtain ⟨x, hs'⟩ := hspec
    exact ⟨x, rfl, eq_of_becomes rfl hs'⟩
  | error e s' =>
    rw [hrun] at hspec
    exact ⟨rfl, eq_of_becomes rfl hspec.2⟩
  | panicked payload w' =>
    rw [hrun] at hspec
    exact ⟨hspec, rfl⟩
  | exhausted => trivial

/-! ## The whole call -/

/-- The call has come to an end, without a panic, in one of the ways to come out. -/
def ComesOut (functions : HostFunctions δ) (handler : Handler M BoundFunction (HostState δ))
    (c : NativeCall M BoundFunction (HostState δ))
    (outcome : Outcome M BoundFunction (HostState δ) EngineError Bool) : Prop :=
  ∃ reply w, NativeResult.ofOutcome outcome = .ended reply w ∧
    Invoked functions handler c (.ended reply w)

/-- Where a call may end.  It panics only if its own function does,
or there was a panic below it. -/
def waysOut (functions : HostFunctions δ) (handler : Handler M BoundFunction (HostState δ))
    (c : NativeCall M BoundFunction (HostState δ))
    (broken : Payload → World M BoundFunction (HostState δ) → Prop) :
    Post M BoundFunction (HostState δ) EngineError Bool :=
  ⟨fun returnsTop s' => ComesOut functions handler c (.ok returnsTop s'),
    fun e s' => ComesOut functions handler c (.error e s'),
    fun payload w' => (functions.MayPanic payload ∨ broken payload w') ∧
      Invoked functions handler c (.panicked payload w')⟩

theorem throwInto_wp {kind : ErrorKind} {e : Error}
    (h : Invoked functions handler c (.throwing kind e.message w)) :
    (throwInto kind e : Crossing M δ EngineError Bool).wp handler
      (waysOut functions handler c broken) ⟨w, slots, none⟩ := by
  refine wp_of_eq (throwInto_eq rfl kind e) ?_
  exact ⟨_, _, ofOutcome_thrown _, h⟩

/-- **A call comes out in one of these ways.** -/
theorem invoke_wp (T : Trust handler broken) (functions : HostFunctions δ)
    (c : NativeCall M BoundFunction (HostState δ)) :
    (invoke functions c.function : Crossing M δ EngineError Bool).wp handler
      (waysOut functions handler c broken) c.entry := by
  refine wp_of_eq invoke_entry ?_
  refine wp_bind_of (readArguments_wp T _ (standFrom_entry c) c.world) ?_ (fun _ _ h => h.elim)
    fun payload w' h => ⟨.inr h.1, .argumentPanicked h.2⟩
  rintro args s₁ ⟨hs₁, hargs⟩
  rw [hs₁]
  cases args with
  | error e => exact throwInto_wp (.refused hargs)
  | ok args =>
    unfold runOn
    rw [wp_bind, wp_read]
    refine wp_bind_of (carryOut_wp T _ (this_entry c) _ s₁.world) ?_ (fun _ _ h => h.elim)
      fun payload w' h => ⟨h.1.imp_left fun h => ⟨_, _, _, h⟩, .panicked ⟨hargs, h.2⟩⟩
    rintro result s₂ ⟨hs₂, hcarried⟩
    rw [hs₂]
    have hrun : RunsOn functions handler c (.ok result) s₂.world := ⟨hargs, hcarried⟩
    cases result with
    | failed failure =>
      unfold wp
      rw [answer_failed]
      exact ⟨_, _, ofOutcome_thrown _, .failed hrun⟩
    | returned v =>
      unfold answer
      rw [wp_bind, wp_attempt]
      refine wp_mono (push_wp T _ c.entry.slots v s₂.world) ?_ ?_
        fun payload w' h => ⟨.inr h.1, .resultPanicked hrun h.2⟩
      · rintro _ s₃ ⟨x, hpush, hs₃⟩
        rw [hs₃] at hpush ⊢
        exact ⟨_, _, by simp [NativeResult.ofOutcome, topOrUndefined], .returned hrun hpush⟩
      · rintro e s₃ ⟨hpush, hs₃⟩
        rw [hs₃] at hpush ⊢
        dsimp only
        exact throwInto_wp (.unreturned hrun hpush)

/-- What a call ends as is a way to come out. -/
theorem invoked_of_runNative (T : Trust handler broken)
    {result : NativeResult M BoundFunction (HostState δ)}
    (h : runNative (invoke functions) handler c.function c.this c.args c.world = result)
    (hend : result ≠ .exhausted) : Invoked functions handler c result ∧
      ∀ payload w, result = .panicked payload w → functions.MayPanic payload ∨
        broken payload w := by
  have hspec := invoke_wp T functions c
  change NativeResult.ofOutcome (invoke functions c.function handler c.entry) = result at h
  unfold wp at hspec
  cases hrun : invoke functions c.function handler c.entry with
  | ok returnsTop s' =>
    rw [hrun] at hspec h
    obtain ⟨reply, w', hended, hinvoked⟩ := hspec
    obtain rfl : result = .ended reply w' := h.symm.trans hended
    exact ⟨hinvoked, nofun⟩
  | error e s' =>
    rw [hrun] at hspec h
    obtain ⟨reply, w', hended, hinvoked⟩ := hspec
    obtain rfl : result = .ended reply w' := h.symm.trans hended
    exact ⟨hinvoked, nofun⟩
  | panicked payload w' =>
    rw [hrun] at hspec h
    obtain rfl : NativeResult.panicked payload w' = result := h
    refine ⟨hspec.2, fun _ _ heq => ?_⟩
    cases heq
    exact hspec.1
  | exhausted =>
    rw [hrun] at h
    exact (hend h.symm).elim

theorem ne_exhausted_of_invoked {result : NativeResult M BoundFunction (HostState δ)}
    (h : Invoked functions handler c result) : result ≠ .exhausted := by
  cases h <;> exact nofun

end

/-! ## Calls come to an end -/

theorem ofOutcome_ne_exhausted {outcome : Outcome M BoundFunction (HostState δ) EngineError Bool}
    (h : outcome ≠ .exhausted) : NativeResult.ofOutcome outcome ≠ .exhausted := by
  cases outcome with
  | ok returnsTop s =>
    dsimp only [NativeResult.ofOutcome]
    split <;> exact nofun
  | error e s =>
    dsimp only [NativeResult.ofOutcome]
    split <;> exact nofun
  | panicked payload w => exact nofun
  | exhausted => exact absurd rfl h

theorem runNative_ne_exhausted {handler : Handler M BoundFunction (HostState δ)}
    (hr : M.Returns handler) (functions : HostFunctions δ)
    (c : NativeCall M BoundFunction (HostState δ)) :
    runNative (invoke functions) handler c.function c.this c.args c.world ≠ .exhausted :=
  ofOutcome_ne_exhausted ((assembled_invoke functions c.function).halts hr c.entry)

/-! ## Panics -/

/-- **Nothing but the panic of a host function is a panic**, however deep calls are nested. -/
theorem keeps_mayPanic (hM : M.KeepsArrays) (hc : M.NeverCrashes) (functions : HostFunctions δ)
    (depth : Nat) : (nestedHandler (invoke functions) depth :
      Handler M BoundFunction (HostState δ)).Keeps fun payload _ => functions.MayPanic payload := by
  induction depth with
  | zero => exact fun _ _ _ _ => trivial
  | succ depth ih =>
    intro bound this args w
    let c : NativeCall M BoundFunction (HostState δ) := ⟨bound, this, args, w⟩
    have T := Machine.trust hM hc ih
    -- That arrays are kept is known already, whatever panics there are.
    have halways : LetsPanic (always (M := M) (δ := δ)) := fun _ _ => trivial
    have hlater : NativeResult.Keeps w.machine always
        (nestedHandler (invoke functions) (depth + 1) bound this args w) :=
      keeps_nestedHandler hM (.inr halways) (.inr halways) (depth + 1) bound this args w
    cases hresult : (nestedHandler (invoke functions) (depth + 1) bound this args w :
        NativeResult M BoundFunction (HostState δ)) with
    | ended reply w' =>
      rw [hresult] at hlater
      exact hlater
    | panicked payload w' =>
      obtain ⟨-, hpanic⟩ := invoked_of_runNative (c := c) T hresult nofun
      exact (hpanic payload w' rfl).elim id id
    | exhausted => trivial

/-! ## Calls from script -/

/-- **Calls from script.**  However deep calls nest, whatever the host functions do, and whatever
script the conversions run:

* a call comes out as `Invoked` says and in no other way, if it comes to an end;
* it does if each run of the machine does;
* where an argument is the first that cannot be converted, the call throws a type error with the
  message of that failure, and that would be so whatever the host functions were;
* if the machine itself does not crash, there is a panic only if a host function panics;
* a run of script that has made the call goes on with the answer, be it a value or an error. -/
theorem calls_answered (hM : M.KeepsArrays) (functions : HostFunctions δ) (depth : Nat)
    (c : NativeCall M BoundFunction (HostState δ)) :
    let below : Handler M BoundFunction (HostState δ) := nestedHandler (invoke functions) depth
    let handler : Handler M BoundFunction (HostState δ) :=
      nestedHandler (invoke functions) (depth + 1)
    let result := handler c.function c.this c.args c.world
    (∀ r, Invoked functions below c r ↔ result = r ∧ r ≠ .exhausted) ∧
    (M.Returns below → result ≠ .exhausted) ∧
    (∀ {e : Error} {w : World M BoundFunction (HostState δ)},
      Refuses c.function.marshaller below c.entry.slots e c.args c.world w →
      ∀ others : HostFunctions δ, runNative (invoke others) below c.function c.this c.args c.world =
        .throwing .typeError e.message w) ∧
    (M.NeverCrashes → ∀ payload w, result = .panicked payload w → functions.MayPanic payload) ∧
    ∀ {α : Type} {act : Act M.State α} {v w : World M BoundFunction (HostState δ)}
      {next : M.State → Except ScriptValue ScriptValue → Act M.State α}
      {reply : Except ScriptValue ScriptValue}, act.CallsThen handler v c next →
      result = .ended reply w → act.drive handler v = (next w.machine reply).drive handler w := by
  intro below handler result
  have T := trust_nestedHandler_always hM functions depth
  refine ⟨fun r => ⟨fun h => ?_, fun h => ?_⟩, fun hr => runNative_ne_exhausted hr functions c,
    fun h others => runNative_of_invoked (.refused h), fun hc payload w h => ?_,
    fun hcall h => hcall.drive_eq h⟩
  · exact ⟨runNative_of_invoked h, ne_exhausted_of_invoked h⟩
  · exact (invoked_of_runNative T h.1 h.2).1
  · have hkeeps := keeps_mayPanic hM hc functions (depth + 1) c.function c.this c.args c.world
    change NativeResult.Keeps _ _ result at hkeeps
    rw [h] at hkeeps
    exact hkeeps

/-- The second of three arguments is an array that throws at its element, and the function is not
run; the script that calls it catches the error.  On one argument it is run,
and asks for its receiver. -/
theorem calls_answered_grudging :
    let functions : HostFunctions Nat := fun _ args host =>
      .askThis { host with own := host.own + 1 } fun _ host => .returned (args.headD .null) host
    let bound : BoundFunction := ⟨⟨0⟩, ⟨none, 2, 4⟩⟩
    let world : World Machine.grudging BoundFunction (HostState Nat) :=
      ⟨[⟨.plain, none⟩, ⟨.array, none⟩], #[bound], ⟨.fresh, 0⟩⟩
    let handler : Handler Machine.grudging BoundFunction (HostState Nat) :=
      nestedHandler (invoke functions) 1
    let script (args : List ScriptValue) : Act Machine.grudging.State ScriptValue :=
      .native world.machine ⟨0⟩ .null args fun s reply =>
        .done s (.ok (reply.toOption.getD .undefined))
    (∃ e w, handler bound .null [.boolean true, .object 1, .boolean false] world =
        .throwing .typeError (Error.message e) w ∧ w.host.own = 0) ∧
    (∃ w, (script [.boolean true, .object 1, .boolean false]).drive handler world =
        .ended (.ok .undefined) w) ∧
    (∃ w, handler bound .null [.boolean true] world = .ended (.ok (.boolean true)) w ∧
      w.host.own = 1) ∧
    ∀ args, handler bound .null args world ≠ .exhausted ∧
      ∀ payload w, handler bound .null args world ≠ .panicked payload w := by
  intro functions bound world handler script
  have hcalls (args : List ScriptValue) := calls_answered Machine.keepsArrays_grudging functions 0
    ⟨bound, .null, args, world⟩
  have hquiet (payload : Payload) : ¬ functions.MayPanic payload := by
    rintro ⟨function, args, host, hpanics⟩
    cases hpanics with
    | asked h => cases h
  obtain ⟨-, -, hrefused, -, hgoes⟩ := hcalls [.boolean true, .object 1, .boolean false]
  obtain ⟨e, w, hargs, hown⟩ : ∃ e w, Refuses bound.marshaller
      (nestedHandler (invoke functions) 0 : Handler Machine.grudging BoundFunction (HostState Nat))
      #[.null, .boolean true, .object 1, .boolean false] e
      [.boolean true, .object 1, .boolean false] world w ∧ w.host.own = 0 :=
    ⟨_, _, .cons rfl (.head rfl), rfl⟩
  have hresult := hrefused hargs functions
  have hcall : (script [.boolean true, .object 1, .boolean false]).CallsThen handler world
    ⟨bound, .null, [.boolean true, .object 1, .boolean false], world⟩ _ := .here rfl
  refine ⟨⟨e, w, hresult, hown⟩, ⟨_, hgoes hcall hresult⟩, ?_, fun args => ?_⟩
  · obtain ⟨hcomes, -⟩ := hcalls [.boolean true]
    have hreturned := (hcomes _).mp
      (.returned ⟨.cons rfl (.nil _), .asked rfl (.returned _ _ _)⟩ rfl)
    exact ⟨_, hreturned.1, rfl⟩
  · obtain ⟨-, hends, -, hpanics, -⟩ := hcalls args
    exact ⟨hends (Marshaller.returns_grudging _), fun payload w h =>
      hquiet payload (hpanics Machine.neverCrashes_grudging payload w h)⟩

end Crossing

end ScriptHost
