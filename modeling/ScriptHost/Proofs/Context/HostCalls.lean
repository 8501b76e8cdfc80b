import ScriptHost.Proofs.Context.Paths
import ScriptHost.Proofs.Context.Survival
import ScriptHost.Proofs.Crossing.HostCalls

/-!
# Calling a function for the host

A context is asked for a call with a path to a function, or with source that makes one.  It finds
the function and then makes the call (`CallsWith`).  What it answers with is what the first step
that fails comes out as, and no step behind that is taken.

* `CallTarget`: what is to be called, and `CallTarget.call`: the operations;
* `Finds`, `Misses`: the function with its receiver, or why there is none;
* `Calls`: **all that comes of it**, with the calls that are made;
* `calls_in_order`: and this is what the operations answer with;
* `renamed_not_callable`: a script that renames type errors renames the one for
  what cannot be called.
-/

namespace ScriptHost

open Stack Stacked Crossing

/-- What the host asks a context to call. -/
inductive CallTarget
  /-- The value at the end of a path, on the value before it. -/
  | property (path : PropertyPath)
  /-- The value of a source, without a receiver. -/
  | source (text : String)

namespace CallTarget

variable {M : Machine} {δ : Type}

/-- The operation that makes the call. -/
def call (functions : HostFunctions δ) (ctx : Context M) (host : HostState δ) (target : CallTarget)
    (args : List HostValue) : Context.Result M δ HostValue :=
  match target with
  | property path => ctx.callProperty functions host path args
  | source text => ctx.callSource functions host text args

/-- Leaves the function on top, and its receiver over it. -/
def find (filename : String) : CallTarget → Crossing M δ Error Unit
  | property path => do
    Context.resolve path
    Context.takeUp
  | source text => do
    check (runSource (Text.utf8 text) filename)
    pushUndefined

/-- The whole call, with a note of each call that is made. -/
def callNoted (m : Marshaller) (filename : String) (target : CallTarget) (args : List HostValue) :
    Logged M BoundFunction (HostState δ) HostCall Error HostValue := do
  Logged.quietly (target.find filename)
  Context.callWithNoted m args

theorem erased_callNoted (m : Marshaller) (filename : String) (target : CallTarget)
    (args : List HostValue) :
    (target.callNoted m filename args :
      Logged M BoundFunction (HostState δ) HostCall Error HostValue).erased =
      target.find filename >>= fun _ => Context.callWith m args := by
  unfold callNoted
  rw [Logged.erased_bind, Logged.erased_quietly, Context.erased_callWithNoted]

/-! ## The target -/

section

variable (handler : Handler M BoundFunction (HostState δ)) (filename : String)

/-- There is a value to be called, with its receiver. -/
inductive Finds : CallTarget → World M BoundFunction (HostState δ) → (function this : ScriptValue) →
    World M BoundFunction (HostState δ) → Prop
  | property {key : String} {keys : List String} {holder value : ScriptValue}
      {w w' : World M BoundFunction (HostState δ)}
      (h : Context.Resolves handler key keys w (.reached holder value) w') :
      Finds (.property ⟨key :: keys⟩) w value holder w'
  | source {text : String} {value : ScriptValue} {w w' : World M BoundFunction (HostState δ)}
      (hrun : (M.run (Text.utf8 text) filename w.machine).drive handler w = .ended (.ok value) w') :
      Finds (.source text) w value .undefined w'

/-- There is none, for this error: the path is empty or does not lead anywhere, or the source cannot
be read or throws. -/
inductive Misses : CallTarget → World M BoundFunction (HostState δ) → Error →
    World M BoundFunction (HostState δ) → Prop
  | empty (w : World M BoundFunction (HostState δ)) : Misses (.property ⟨[]⟩) w Context.emptyPath w
  | property {key : String} {keys : List String} {stop : PathEnd} {e : Error}
      {w w' : World M BoundFunction (HostState δ)} (h : Context.Resolves handler key keys w stop w')
      (he : stop.error? = some e) : Misses (.property ⟨key :: keys⟩) w e w'
  | source {text : String} {failure : Failure} {v : ScriptValue} {e : Error}
      {w w₁ w₂ w' : World M BoundFunction (HostState δ)}
      (hrun : (M.run (Text.utf8 text) filename w.machine).drive handler w =
        .ended (.error failure) w₁) (hthrown : ThrownAs handler failure w₁ v w₂)
      (h : Classified handler v w₂ e w') : Misses (.source text) w e w'

/-- **All that comes of the call**, with the calls that are made: at most one, and only of a
function that was found, once all arguments were converted. -/
inductive Calls (m : Marshaller) (target : CallTarget) (args : List HostValue)
    (s : Session M BoundFunction (HostState δ)) :
    List HostCall → Outcome M BoundFunction (HostState δ) Error HostValue → Prop
  | missed {e : Error} {w : World M BoundFunction (HostState δ)} (more : Array ScriptValue)
      (h : target.Misses handler filename s.world e w) :
      Calls m target args s [] (.error e ⟨w, s.slots ++ more, none⟩)
  | unfound {o : Outcome M BoundFunction (HostState δ) Error HostValue}
      (h : (target.find filename handler s).Unended o) : Calls m target args s [] o
  | found {function this : ScriptValue} {w : World M BoundFunction (HostState δ)}
      {calls : List HostCall} {o : Outcome M BoundFunction (HostState δ) Error HostValue}
      (more : Array ScriptValue) (h : target.Finds handler filename s.world function this w)
      (hcall : CallsWith m handler (s.slots ++ more) function this args w calls o) :
      Calls m target args s calls o

end

/-- How the search for the target ends: it is found and left on the stack, it is missed, or the
search does not come to an end. -/
inductive Sought (handler : Handler M BoundFunction (HostState δ)) (filename : String)
    (target : CallTarget) (s : Session M BoundFunction (HostState δ)) :
    Outcome M BoundFunction (HostState δ) Error Unit → Prop
  | found {function this : ScriptValue} {w : World M BoundFunction (HostState δ)}
      (more : Array ScriptValue) (h : target.Finds handler filename s.world function this w) :
      Sought handler filename target s
      (.ok () ⟨w, ((s.slots ++ more).push function).push this, none⟩)
  | missed {e : Error} {w : World M BoundFunction (HostState δ)} (more : Array ScriptValue)
      (h : target.Misses handler filename s.world e w) :
      Sought handler filename target s (.error e ⟨w, s.slots ++ more, none⟩)
  | unended {o : Outcome M BoundFunction (HostState δ) Error Unit}
      {o' : Outcome M BoundFunction (HostState δ) Error HostValue} (h : o.Unended o') :
      Sought handler filename target s o

variable {handler : Handler M BoundFunction (HostState δ)} {filename : String} {target : CallTarget}
  {s : Session M BoundFunction (HostState δ)}

/-- **A path leads to a value with its holder, or nowhere.** -/
theorem sought_property (hp : s.poison = none) (path : PropertyPath) :
    Sought handler filename (.property path) s (find filename (.property path) handler s) := by
  obtain ⟨keys⟩ := path
  show Sought _ _ _ _ ((Context.resolve ⟨keys⟩ >>= fun _ => Context.takeUp) handler s)
  cases keys with
  | nil =>
    obtain ⟨w, slots, poison⟩ := s
    obtain rfl : poison = none := hp
    have hmissed : Sought handler filename (.property ⟨[]⟩) ⟨w, slots, none⟩
        (.error Context.emptyPath ⟨w, slots ++ #[], none⟩) := .missed #[] (.empty w)
    rwa [Array.append_empty] at hmissed
  | cons key keys =>
    rcases @ends_or_unended M _ _ Error Error Unit HostValue (Context.resolve ⟨key :: keys⟩)
      handler s with hends | ⟨o, h⟩
    · obtain ⟨stop, w, hresolves⟩ := Context.exists_resolves_of_ends hp hends
      have hleaves := Context.resolve_of_resolves hp hresolves
      generalize hrun : Context.resolve ⟨key :: keys⟩ handler s = o at hleaves
      cases hleaves with
      | reached more holder value =>
        rw [bind_eq_of_ok hrun, Context.takeUp_eq]
        rw [← Array.append_push, ← Array.append_push]
        exact .found ((more.push holder).push value) (.property hresolves)
      | stopped more he =>
        rw [bind_eq_of_error hrun]
        exact .missed more (.property hresolves he)
    · exact .unended (unended_bind h)

/-- **Source gives a value, or fails.** -/
theorem sought_source (hp : s.poison = none) (text : String) :
    Sought handler filename (.source text) s (find filename (.source text) handler s) := by
  obtain ⟨w, slots, poison⟩ := s
  obtain rfl : poison = none := hp
  have hrun := operates_check handler slots (M.run (Text.utf8 text) filename)
    (fun _ => (pushUndefined : Crossing M δ Error Unit)) w
  show Sought _ _ _ _ ((check (perform (M.run (Text.utf8 text) filename) >>= pushValue) >>= fun _ =>
    pushUndefined) handler ⟨w, slots, none⟩)
  generalize (check (perform (M.run (Text.utf8 text) filename) >>= pushValue) >>= fun _ =>
    pushUndefined) handler ⟨w, slots, none⟩ = o at hrun ⊢
  cases hrun with
  | @returned value w' _ hrun hnext =>
    have hfound : Sought handler filename (.source text) ⟨w, slots, none⟩
        (.ok () ⟨w', ((slots ++ #[]).push value).push .undefined, none⟩) :=
      .found #[] (.source hrun)
    rw [Array.append_empty] at hfound
    rwa [← hnext]
  | threw hrun hthrown hreports =>
    cases hreports with
    | @classified e w' h =>
      have hmissed : Sought handler filename (.source text) ⟨w, slots, none⟩
          (.error e ⟨w', slots ++ #[], none⟩) := .missed #[] (.source hrun hthrown h)
      rwa [Array.append_empty] at hmissed
    | unended h =>
      obtain ⟨o', h'⟩ := h.again
      exact .unended h'
  | unended h =>
    obtain ⟨o', h'⟩ := h.again
    exact .unended h'

/-- **The call comes out as its parts do.** -/
theorem calls_noted (m : Marshaller) (args : List HostValue) (hp : s.poison = none) :
    let run := target.callNoted m filename args handler s
    Calls handler filename m target args s run.1 run.2 := by
  intro run
  have hsought : Sought handler filename target s (target.find filename handler s) := by
    cases target with
    | property path => exact sought_property hp path
    | source text => exact sought_source hp text
  generalize hfind : target.find filename handler s = o at hsought
  cases hsought with
  | @found function this w more h =>
    have hrun : run = _ := Logged.quietly_bind_of_ok hfind
    rw [hrun]
    exact .found more h (Context.callsWith_noted m handler (s.slots ++ more) function this args w)
  | missed more h =>
    have hrun : run = _ := Logged.quietly_bind_of_error hfind
    rw [hrun]
    exact .missed more h
  | unended h =>
    have hrun : run = _ := Logged.quietly_bind_of_unended (hfind ▸ h)
    rw [hrun]
    exact .unfound (hfind ▸ h)

theorem Calls.length_le {m : Marshaller} {args : List HostValue} {calls : List HostCall}
    {o : Outcome M BoundFunction (HostState δ) Error HostValue}
    (h : Calls handler filename m target args s calls o) : calls.length ≤ 1 := by
  cases h with
  | missed => exact Nat.zero_le 1
  | unfound => exact Nat.zero_le 1
  | found _ _ hcall => exact hcall.length_le

/-! ## The operations -/

variable {functions : HostFunctions δ} {ctx : Context M} {host : HostState δ}
  {live : M.State × Array BoundFunction}

/-- The operations make the call. -/
theorem call_eq_concluded (hv : ctx.isValid = true) (hlive : ctx.engine.live = some live)
    (args : List HostValue) : target.call functions ctx host args = ctx.concluded functions host
      (target.callNoted ctx.marshaller ctx.config.defaultFilename args
        (nestedHandler (invoke functions) Context.nestingLimit)
          (ctx.engine.entry live host)).2 := by
  show _ = ctx.concluded functions host
    ((target.callNoted ctx.marshaller ctx.config.defaultFilename args).erased _ _)
  rw [erased_callNoted]
  cases target with
  | source text =>
    simp only [find, bind_assoc]
    exact Context.runProgram_eq_concluded hlive _
  | property path =>
    obtain ⟨keys⟩ := path
    cases keys with
    | nil =>
      -- Nothing is run, and nothing is what the empty path leaves of the stack.
      have hkept : ctx.concluded functions host (.error Context.emptyPath
          ⟨⟨live.1, live.2, host⟩, ctx.engine.slots ++ #[], none⟩) =
          some ((.error Context.emptyPath : Except Error HostValue), _, host) :=
        Context.concluded_of_kept hv (.error Context.emptyPath) #[]
      have hafter :
          ctx.after (⟨live.1, live.2, host⟩ : World M BoundFunction (HostState δ)) = ctx := by
        show { ctx with engine := { ctx.engine with live := some live } } = ctx
        rw [← hlive]
      rw [Array.append_empty, hafter] at hkept
      exact hkept.symm
    | cons key keys =>
      simp only [find, Context.takeUp, bind_assoc]
      exact Context.callProperty_eq hlive args

/-- Nothing is taken away of what was on the stack. -/
theorem callNoted_wp (hM : M.KeepsArrays) (functions : HostFunctions δ) (ctx : Context M)
    (target : CallTarget) (args : List HostValue) (s : Session M BoundFunction (HostState δ))
    (hp : s.poison = none) :
    (target.callNoted ctx.marshaller ctx.config.defaultFilename args).erased.wp
      (nestedHandler (invoke functions) Context.nestingLimit)
      (orFails (s.Extends s.slots) always fun _ => s.Extends s.slots) s := by
  have T := trust_nestedHandler_always (δ := δ) hM functions Context.nestingLimit
  rw [erased_callNoted]
  cases target with
  | source text =>
    have hruns := @Operation.Runs.callSource M δ ctx text args
    simp only [find, bind_assoc]
    exact hruns.spec T hp (.refl s)
  | property path =>
    by_cases hpath : path.isEmpty = true
    · obtain ⟨keys⟩ := path
      obtain rfl : keys = [] := List.isEmpty_iff.mp hpath
      exact ⟨rfl, extends_of_becomes (.refl s)⟩
    · have hruns := @Operation.Runs.callProperty M δ ctx path args (eq_false_of_ne_true hpath)
      simp only [find, Context.takeUp, bind_assoc]
      exact hruns.spec T hp (.refl s)

/-- What the call has come out as is what the operations answer with, and the context can be used as
before, if the machine keeps its arrays. -/
theorem call_of_ended (hv : ctx.isValid = true) (hlive : ctx.engine.live = some live)
    (hM : M.KeepsArrays) {args : List HostValue} {result : Except Error HostValue}
    {s : Session M BoundFunction (HostState δ)}
    (hrun : (target.callNoted ctx.marshaller ctx.config.defaultFilename args
      (nestedHandler (invoke functions) Context.nestingLimit) (ctx.engine.entry live host)).2 =
        .ofResult result s) :
    target.call functions ctx host args = some (result, ctx.after s.world, s.world.host) := by
  have hwp := callNoted_wp hM functions ctx target args (ctx.engine.entry live host) rfl
  rw [call_eq_concluded hv hlive, hrun]
  cases result with
  | ok v =>
    obtain ⟨more, hslots, hp, -⟩ := ok_of_wp hwp hrun
    obtain ⟨w, slots, poison⟩ := s
    obtain rfl : slots = ctx.engine.slots ++ more := hslots
    obtain rfl : poison = none := hp
    exact Context.concluded_of_kept hv (.ok v) more
  | error e =>
    obtain ⟨-, more, hslots, hp, -⟩ := error_of_wp hwp hrun
    obtain ⟨w, slots, poison⟩ := s
    obtain rfl : slots = ctx.engine.slots ++ more := hslots
    obtain rfl : poison = none := hp
    exact Context.concluded_of_kept hv (.error e) more

/-- **Calls are made in order.**  On a valid context all that comes of a call, whatever the machine
and the host functions do, is what `Calls` says: the function is found, then the arguments are
converted from left to right, then the function is called, and at last its result is converted.  The
first of these that fails decides, and the function is called once if it comes to that, and
otherwise not at all.  The operation answers with what this comes out as, and the context can be
used as before, if the machine keeps its arrays. -/
theorem calls_in_order (hv : ctx.isValid = true) (hlive : ctx.engine.live = some live)
    (target : CallTarget) (args : List HostValue) :
    let handler := nestedHandler (invoke functions) Context.nestingLimit
    let entry := ctx.engine.entry live host
    let filename := ctx.config.defaultFilename
    let run := target.callNoted ctx.marshaller filename args handler entry
    Calls handler filename ctx.marshaller target args entry run.1 run.2 ∧ run.1.length ≤ 1 ∧
      target.call functions ctx host args = ctx.concluded functions host run.2 ∧
      (M.KeepsArrays → ∀ result s, run.2 = .ofResult result s →
        target.call functions ctx host args = some (result, ctx.after s.world, s.world.host)) := by
  intro handler entry filename run
  have hcalls : Calls handler filename ctx.marshaller target args entry run.1 run.2 :=
    calls_noted ctx.marshaller args rfl
  exact ⟨hcalls, hcalls.length_le, call_eq_concluded hv hlive args,
    fun hM _ _ hrun => call_of_ended hv hlive hM hrun⟩

/-- The host function that returns a function. -/
def returnsFunction : HostFunctions Unit :=
  fun function _ host => .returned (.callable function) host

/-- A context on the machine whose source and functions call the host. -/
def relayingContext : Context Machine.relaying :=
  ⟨⟨some (Machine.relaying.fresh, #[⟨⟨0⟩, ⟨none, 8, 64⟩⟩]), #[], none, []⟩, {}⟩

/-- Source that gives a function, which is called once and gives another one. -/
theorem calls_in_order_relaying :
    let live := (Machine.relaying.fresh, #[(⟨⟨0⟩, ⟨none, 8, 64⟩⟩ : BoundFunction)])
    let host : HostState Unit := ⟨.fresh, ()⟩
    let handler := nestedHandler (invoke returnsFunction) Context.nestingLimit
    let entry := relayingContext.engine.entry live host
    let filename := relayingContext.config.defaultFilename
    let target := CallTarget.source ""
    let args := [HostValue.boolean true]
    let calls := [⟨1, .undefined, [.boolean true]⟩]
    let w : World Machine.relaying BoundFunction (HostState Unit) :=
      ⟨[⟨.plain, none⟩, ⟨.function, none⟩, ⟨.function, none⟩],
        #[⟨⟨0⟩, ⟨none, 8, 64⟩⟩, ⟨⟨0⟩, ⟨none, 8, 64⟩⟩, ⟨⟨0⟩, ⟨none, 8, 64⟩⟩], ⟨⟨some ⟨1⟩, 1⟩, ()⟩⟩
    relayingContext.isValid = true ∧ relayingContext.engine.live = some live ∧
      (∃ o, Calls handler filename relayingContext.marshaller target args entry calls o) ∧
      target.call returnsFunction relayingContext host args =
        some (.ok (.complexObject ⟨1⟩), relayingContext.after w, w.host) := by
  intro live host handler entry filename target args calls w
  obtain ⟨hcalls, -, -, hanswer⟩ := @calls_in_order Machine.relaying Unit returnsFunction
    relayingContext host live rfl rfl target args
  have hrun : target.callNoted relayingContext.marshaller filename args handler
      ⟨⟨Machine.relaying.fresh, #[⟨⟨0⟩, ⟨none, 8, 64⟩⟩], host⟩, #[], none⟩ =
      (calls, .ofResult (.ok (.complexObject ⟨1⟩)) ⟨w, #[], none⟩) := by cbv
  have hlog := congrArg Prod.fst hrun
  have hend : (target.callNoted relayingContext.marshaller filename args handler entry).2 =
      .ofResult (.ok (.complexObject ⟨1⟩)) ⟨w, #[], none⟩ := congrArg Prod.snd hrun
  exact ⟨rfl, rfl, ⟨_, hlog ▸ hcalls⟩, hanswer Machine.keepsArrays_relaying _ _ hend⟩

/-! ## The name of an error belongs to the script -/

section

open Script

/-- A machine whose script has given another name to type errors.
There is a boolean under `flag`. -/
def renamed : State where
  heap := ⟨#[
      { (default : Object) with
        named := [(.name (Text.units "flag"), .plain (.boolean true))] },
      default, default, default, default,
      { (default : Object) with
        named := [(.name (Text.units "name"), .hidden (.string (Text.units "Foo")))] }]⟩
  scopes := #[]
  symbols := #[]
  registered := []
  frames := []
  converting := []

/-- A context on the machine. -/
def renamedContext : Context scriptMachine := ⟨⟨some (renamed, #[]), #[], none, []⟩, {}⟩

/-- The boolean is found, there is no argument to convert, and it cannot be called.  What is
reported is not a type error. -/
theorem renamed_not_callable :
    let target : CallTarget := .property ⟨["flag"]⟩
    let handler : Handler scriptMachine BoundFunction (HostState Unit) :=
      nestedHandler (invoke Context.returnsThis) Context.nestingLimit
    let w : World scriptMachine BoundFunction (HostState Unit) := ⟨renamed, #[], ⟨.fresh, ()⟩⟩
    target.Finds handler "" w (.boolean true) (.object Intrinsic.global.ref) w ∧
      (∀ ref, ¬ Context.Callee (M := scriptMachine) renamed (.boolean true) ref) ∧
      Context.failure? (target.call Context.returnsThis renamedContext ⟨.fresh, ()⟩ []) =
        some (.script "Foo" "not callable" none) ∧
      ∀ ctx host, target.call Context.returnsThis renamedContext ⟨.fresh, ()⟩ [] ≠
        some (.error (.typeError "not callable"), ctx, host) := by
  intro target handler w
  have hfails : Context.failure? (target.call Context.returnsThis renamedContext ⟨.fresh, ()⟩ []) =
      some (.script "Foo" "not callable" none) := by decide +kernel
  refine ⟨.property (.bound (.answered (.found rfl rfl rfl)) .done), ?_, hfails,
    fun ctx host h => ?_⟩
  · rintro ref ⟨hvalue, -⟩
    cases hvalue
  · rw [h] at hfails
    cases hfails

end

end CallTarget

end ScriptHost
