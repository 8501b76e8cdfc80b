import ScriptHost.Proofs.Context.Survival
import ScriptHost.Proofs.Crossing.HostErrors
import ScriptHost.Script.Machine

/-!
# Errors of host functions reach the host again

A script calls a host function, the function fails, and nobody catches what is thrown.  Then the
operation that ran the script fails with the same error, as far as an error can be told from its
kind and its message.

* `perform_of_runs`, `runProgram_of_error`: an operation whose program fails;
* `Escapes`: an error of a host function that leaves a script as it was made;
* `host_errors_survive`: **errors of host functions survive the trip through script.**
* `reported_otherwise`: what keeps them from it: an error of the library as a context, which is the
  one that counts, and another name for type errors.
-/

namespace ScriptHost

open Stack Stacked Crossing

variable {M : Machine} {δ α : Type} {functions : HostFunctions δ} {ctx : Context M}
  {host : HostState δ}

theorem Operation.perform_of_runs {op : Operation} {program : Crossing M δ Error op.Value}
    (h : op.Runs ctx program) :
    op.perform functions ctx host = ctx.runProgram functions host program := by
  cases h with
  | getProperty path hpath => simp only [perform, Context.getProperty, hpath]; rfl
  | callProperty path args hpath => simp only [perform, Context.callProperty, hpath]; rfl
  | _ => rfl

theorem Engine.protect_of_error {κ ω η ε : Type} {engine : Engine M κ η} {live : M.State × Array κ}
    {handler : Handler M κ ω} {ofEngineError : EngineError → ε}
    {program : Stacked M κ ω ε α} {e : ε}
    {host : ω} {s : Session M κ ω} (hlive : engine.live = some live)
    (h : program handler (engine.entry live host) = .error e s) (hp : s.poison = none) :
    engine.protect host handler ofEngineError program = some (.error e,
      { engine with live := some (s.world.machine, s.world.natives), slots := s.slots },
      s.world.host) := by
  unfold entry at h
  unfold protect
  simp only [hlive, h, hp]

namespace Context

theorem restoring_of_error {handler : Handler M BoundFunction (HostState δ)}
    {program : Crossing M δ Error α} {s s' : Session M BoundFunction (HostState δ)} {e : Error}
    (h : program handler s = .error e s') :
    ∃ s'', restoring program handler s = .error e s'' := by
  unfold restoring
  rw [bind_eq_of_ok (show depth handler s = .ok s.slots.size s from rfl),
    bind_eq_of_ok (attempt_of_error h)]
  exact ⟨_, rfl⟩

/-- The operation fails with the error of its program, and the context stays valid. -/
theorem runProgram_of_error (hM : M.KeepsArrays) (hv : ctx.isValid = true) {op : Operation}
    {program : Crossing M δ Error op.Value} (hr : op.Runs ctx program)
    {live : M.State × Array BoundFunction} (hlive : ctx.engine.live = some live) {e : Error}
    {s : Session M BoundFunction (HostState δ)}
    (h : program (nestedHandler (invoke functions) nestingLimit) (ctx.engine.entry live host) =
      .error e s) :
    ∃ ctx' host', op.perform functions ctx host = some (.error e, ctx', host') ∧
      ctx'.isValid = true := by
  -- Another call might have ended in a panic, but then the program would have come to no error.
  have T := trust_nestedHandler_always hM functions nestingLimit
  obtain ⟨s', hrun⟩ := restoring_of_error h
  obtain ⟨-, hs'⟩ := error_of_wp (hr.restoring_spec T rfl) hrun
  have hpoison : s'.poison = none := hs'.poison
  have hprotect : ctx.engine.protect host _ Error.ofEngineError (restoring program) = _ :=
    Engine.protect_of_error hlive hrun hpoison
  refine ⟨_, s'.world.host, ?_,
    isValid_of_live hv (s'.world.machine, s'.world.natives) s'.slots ctx.config⟩
  rw [Operation.perform_of_runs hr, runProgram, if_pos hv]
  show (ctx.engine.protect host _ Error.ofEngineError (restoring program)).map _ = _
  rw [hprotect]
  rfl

/-- **An error of a host function leaves a script as it was made.**  A primitive of the operation
has script run, be it source or a function that is called, and the script calls a host function,
which fails.  The run goes on behind the call, and in the end it fails with the very object that was
thrown there.  By then nobody has done anything to that object, or to the prototypes of the error
constructors. -/
inductive Escapes (E : ErrorStore M) (functions : HostFunctions δ) (ctx : Context M)
    (host : HostState δ) (op : Operation) (failure : HostFailure) : Prop
  | intro {α β : Type} {program : Crossing M δ Error op.Value}
      {live : M.State × Array BoundFunction}
      {primitive : Crossing M δ EngineError α} {t u : Session M BoundFunction (HostState δ)}
      {f : M.State → Act M.State β} {c : NativeCall M BoundFunction (HostState δ)}
      {next : M.State → Except ScriptValue ScriptValue → Act M.State β}
      {w w' : World M BoundFunction (HostState δ)} {uncaught : Failure}
      (hr : op.Runs ctx program) (hlive : ctx.engine.live = some live)
      (hprimitive : RunsInto (nestedHandler (invoke functions) nestingLimit) (check primitive) t
        program (ctx.engine.entry live host))
      (hrun : RunsInto (nestedHandler (invoke functions) nestingLimit) (perform f) u primitive t)
      (hcall : (f u.world.machine).CallsThen (nestedHandler (invoke functions) nestingLimit)
        u.world c next)
      (hfails : HostFails functions (nestingLimit - 1) c failure w)
      (hpristine : E.pristine w.machine)
      (hrest : (next (failure.madeIn w).2.machine (.error (.object (failure.madeIn w).1))).drive
        (nestedHandler (invoke functions) nestingLimit) (failure.madeIn w).2 =
          .ended (.error uncaught) w')
      (hcause : uncaught.cause = .value (.object (failure.madeIn w).1))
      (huntouched : ∀ kind message trace,
        E.isMade (failure.madeIn w).2.machine (failure.madeIn w).1 kind message trace →
          E.isMade w'.machine (failure.madeIn w).1 kind message trace)
      (hpristine' : E.pristine w'.machine) : Escapes E functions ctx host op failure

variable {E : ErrorStore M}

/-- The primitive fails with the error object on top, and is classified by what that shows. -/
theorem check_of_uncaught {handler : Handler M BoundFunction (HostState δ)} {β : Type}
    {primitive : Crossing M δ EngineError α} {f : M.State → Act M.State β}
    {t u : Session M BoundFunction (HostState δ)} {uncaught : Failure} {ref : Ref}
    {w : World M BoundFunction (HostState δ)} (failure : HostFailure)
    (hrun : RunsInto handler (perform f) u primitive t)
    (hdrive : (f u.world.machine).drive handler u.world = .ended (.error uncaught) w)
    (hcause : uncaught.cause = .value (.object ref)) (hp : E.pristine w.machine)
    (hm : E.isMade w.machine ref failure.kind (Text.units failure.message) none) :
    ∃ e s', (check primitive : Crossing M δ Error α) handler t = .error e s' ∧
      Resurfaces failure e := by
  -- On its way out of the machine the error gets a trace, which leaves its name and message alone.
  obtain ⟨trace, w', htraced, hp', hm'⟩ := E.exists_traced handler hp hm uncaught
  have hthrown := hrun.eq_error (perform_of_traced hdrive hcause (E.isError hm) htraced)
  obtain ⟨e, hreported, hresurfaces⟩ :=
    exists_resurfaces failure (some (Text.pairUnitsLossy trace))
  have hclassified := E.classified handler hp' hm' hreported
  obtain ⟨s', hclassify, -⟩ := classify_of_classified (α := α)
    (s := ⟨w', u.slots.push (.object ref), u.poison⟩) rfl hclassified
  exact ⟨e, s', (bind_eq_of_ok (attempt_of_error hthrown)).trans hclassify, hresurfaces⟩

/-- **Errors of host functions survive the trip through script.**  Where a host function that a
script has called fails, the run of the script goes on with a new error object thrown at the call;
nothing is aborted.  If that object leaves the script as it was made, the operation fails with the
error that the function has failed with, in the form that `Resurfaces` gives it, and the context
stays valid.  The failure may be any, with any message, and the conversions of the arguments and of
the receiver may have run any script; contexts that were put around an error of this library change
nothing at all, as the same object is thrown.  Of the machine it is only relied on that arrays stay
arrays, and on the laws of its errors. -/
theorem host_errors_survive (E : ErrorStore M) (hM : M.KeepsArrays) (functions : HostFunctions δ) :
    (∀ {depth : Nat} {c : NativeCall M BoundFunction (HostState δ)} {failure : HostFailure}
      {w : World M BoundFunction (HostState δ)}, HostFails functions depth c failure w →
      let handler := nestedHandler (invoke functions) (depth + 1)
      let ref := (failure.madeIn w).1
      let w' := (failure.madeIn w).2
      handler c.function c.this c.args c.world = .ended (.error (.object ref)) w' ∧
      (E.pristine w.machine → E.pristine w'.machine ∧ M.isError w'.machine ref = true) ∧
      ∀ {α : Type} {act : Act M.State α} {v : World M BoundFunction (HostState δ)}
        {next : M.State → Except ScriptValue ScriptValue → Act M.State α},
        act.CallsThen handler v c next →
          act.drive handler v = (next w'.machine (.error (.object ref))).drive handler w') ∧
    (∀ {failure : HostFailure} {messages : List String} {e : Error} {rest : List (Error ⊕ String)}
      (w : World M BoundFunction (HostState δ)),
      failure.chain = messages.map .inr ++ .inl e :: rest →
      failure.madeIn w = HostFailure.madeIn ⟨[], .inl e⟩ w) ∧
    ∀ {ctx : Context M} {host : HostState δ} {op : Operation} {failure : HostFailure},
      ctx.isValid = true → Escapes E functions ctx host op failure →
      ∃ e ctx' host', op.perform functions ctx host = some (.error e, ctx', host') ∧
        ctx'.isValid = true ∧ Resurfaces failure e := by
  refine ⟨fun {depth c failure w} hfails => ?_, fun w h => HostFailure.madeIn_of_chain h w,
    fun {ctx host op failure} hv hescapes => ?_⟩
  · have hanswered := answered_of_hostFails hM hfails
    refine ⟨hanswered, fun hp => ?_, fun hcall => hcall.drive_eq hanswered⟩
    obtain ⟨hp', hm⟩ := E.newError failure.kind (Text.units failure.message) hp
    exact ⟨hp', E.isError hm⟩
  · cases hescapes with
    | @intro α β program live primitive t u f c next w w' uncaught hr hlive hprimitive hrun hcall
        hfails hpristine hrest hcause huntouched hpristine' =>
      have hmade := (E.newError failure.kind (Text.units failure.message) hpristine).2
      have hdrive := (hcall.drive_eq (answered_of_hostFails hM hfails)).trans hrest
      obtain ⟨e, s', hcheck, hresurfaces⟩ := check_of_uncaught failure hrun hdrive hcause
        hpristine' (huntouched _ _ _ hmade)
      obtain ⟨ctx', host', hperform, hvalid⟩ := runProgram_of_error hM hv hr hlive
        (hprimitive.eq_error hcheck)
      exact ⟨e, ctx', host', hperform, hvalid, hresurfaces⟩

/-- The message holds a character outside the basic plane and one that stands for others. -/
theorem host_errors_survive_relaying :
    let failure : HostFailure := ⟨[.inr "cannot open"], .inl (.reference "no 𝄞 and no \uFFFD")⟩
    let functions : HostFunctions Unit := fun _ _ host => .failed failure host
    let bound : BoundFunction := ⟨⟨0⟩, ⟨none, 8, 8⟩⟩
    let ctx : Context Machine.relaying :=
      ⟨{ Engine.new Machine.relaying BoundFunction Unit with
        live := some (Machine.relaying.fresh, #[bound]) }, {}⟩
    let host : HostState Unit := ⟨.fresh, ()⟩
    let world : World Machine.relaying BoundFunction (HostState Unit) :=
      ⟨Machine.relaying.fresh, #[bound], host⟩
    nestedHandler (invoke functions) nestingLimit bound .undefined [] world =
      .ended (.error (.object 1)) (failure.madeIn world).2 ∧
    ∃ ctx' host', (Operation.evaluate "").perform functions ctx host =
      some (.error (.reference "no 𝄞 and no \uFFFD"), ctx', host') ∧ ctx'.isValid = true := by
  intro failure functions bound ctx host world
  obtain ⟨hcalls, -, hoperations⟩ :=
    host_errors_survive Machine.relayingStore Machine.keepsArrays_relaying functions
  let c : NativeCall Machine.relaying BoundFunction (HostState Unit) :=
    ⟨bound, .undefined, [], world⟩
  have hfails : HostFails functions (nestingLimit - 1) c failure c.entry.world := .intro rfl rfl
  have hescapes : Escapes Machine.relayingStore functions ctx host (.evaluate "") failure :=
    .intro (.evaluate "") rfl (.first .here) (.first .here) (.here rfl) hfails trivial rfl rfl
      (fun _ _ _ h => h) trivial
  obtain ⟨e, ctx', host', hperform, hvalid, hresurfaces⟩ := hoperations rfl hescapes
  cases hresurfaces with
  | error hinner he =>
    cases hinner
    cases he
    exact ⟨(hcalls hfails).1, ctx', host', hperform, hvalid⟩
  | other hnone trace => cases hnone

/-! ## What is reported instead -/

section

open Script

/-- The host function fails. -/
def alwaysFails (failure : HostFailure) : HostFunctions Unit := fun _ _ host => .failed failure host

/-- A function that calls `f`, catches nothing and goes on to some more code before it is left. -/
def passingCode (finalizer : List Stmt) : FunctionCode :=
  .mk ⟨Text.units "g", .normal, false, false, 0, none, [], [], none, false, 0⟩ [] none
    [.guarded (.mk [] [.expression (.call ⟨1, 1⟩ (.name (Text.units "f")) false [])]) none
      (some (.mk [] finalizer))]

/-- The assignment `prototype.name = "Foo"`. -/
def renamesErrors : Stmt :=
  .expression (.assign ⟨1, 1⟩
    (.property ⟨1, 1⟩ (.read (.name (Text.units "prototype"))) (Text.units "name"))
    (.literal (.string (Text.units "Foo"))))

/-- A machine with this function under `g`, the function of the host under `f`, and the prototype of
type errors under `prototype`.  These and reference errors have their names. -/
def passingState (finalizer : List Stmt) : State where
  heap := ⟨#[
      { (default : Object) with
        named := [(.name (Text.units "f"), .plain (.object 7)),
          (.name (Text.units "g"), .plain (.object 8)),
          (.name (Text.units "prototype"), .plain (.object 5))] },
      default, default, default, default,
      { (default : Object) with
        named := [(.name (Text.units "name"), .hidden (.string (Text.units "TypeError")))] },
      { (default : Object) with
        named := [(.name (Text.units "name"), .hidden (.string (Text.units "ReferenceError")))] },
      { (default : Object) with kind := .function ⟨.native ⟨0⟩, "f", false⟩ },
      { (default : Object) with
        kind := .function ⟨.closure ⟨passingCode finalizer, 0, "t.js", none, []⟩, "g", false⟩ }]⟩
  scopes := #[default]
  symbols := #[]
  registered := []
  frames := []
  converting := []

/-- What is reported when `g` is called on this machine. -/
def reportedPassing (finalizer : List Stmt) (failure : HostFailure) : Option Error :=
  let ctx : Context scriptMachine :=
    ⟨⟨some (passingState finalizer, #[⟨⟨0⟩, ⟨none, 10, 10⟩⟩]), #[], none, []⟩, {}⟩
  failure? (ctx.callProperty (alwaysFails failure) ⟨.fresh, ()⟩ ⟨["g"]⟩ [])

/-- A type error leaves the script as it was made.  If it was given an error of this library as its
context, that one is reported.  If the script has renamed type errors by then, a script error is. -/
theorem reported_otherwise :
    reportedPassing [] ⟨[], .inl (.typeError "inner")⟩ = some (.typeError "inner") ∧
    reportedPassing [] ⟨[.inl (.reference "outer")], .inl (.typeError "inner")⟩ =
      some (.reference "outer") ∧
    ∃ trace, reportedPassing [renamesErrors] ⟨[], .inl (.typeError "inner")⟩ =
      some (.script "Foo" "inner" trace) :=
  ⟨by decide +kernel, by decide +kernel, some "Foo: inner\n    at g (t.js:1:1)", by decide +kernel⟩

end

end Context

end ScriptHost
