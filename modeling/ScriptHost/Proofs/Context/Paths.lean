import ScriptHost.Proofs.Context.Performed
import ScriptHost.Proofs.Context.Resolving
import ScriptHost.Proofs.Crossing.Calling
import ScriptHost.Proofs.Machine.Prototypes
import ScriptHost.Value.Equality

/-!
# Reading and calling under a path

To read a property and to call it is to follow the same path, and to part only once a value was
reached.  On the script machine the start is plain: if no proxy stands behind the global object, to
ask for the first key runs no script, so a path has no root exactly if there is no such property.

* `concluded`: what an operation answers, from the outcome of its program;
* `Answers`: what the two operations answer, from where the path ends;
* `paths_resolve_alike`: **they follow the path alike**;
* `getter_sees_object`: a primitive on the way is looked up as an object, and an accessor sees that.
-/

namespace ScriptHost

open Stack Stacked Crossing

namespace Context

variable {M : Machine} {δ α : Type}

/-! ## The operations -/

section

variable (functions : HostFunctions δ) (ctx : Context M) (host : HostState δ)

/-- The context as an operation leaves it that ends in this world and aborts nothing. -/
def after (w : World M BoundFunction (HostState δ)) : Context M :=
  { ctx with engine := { ctx.engine with live := some (w.machine, w.natives) } }

/-- What an operation answers whose program has come to this outcome. -/
def concluded (o : Outcome M BoundFunction (HostState δ) Error α) : Result M δ α :=
  ctx.runProgram functions host fun _ _ => o

/-- What the two operations answer once the path has ended.  Short of a value, both give the error
and nothing else happens.  A value that was reached is on top of the stack, with its holder below.
To read the property is to convert the value, and a missing one is null.  To call it is to push the
arguments over the value and its holder, and then to call the one on the other as they are. -/
structure Answers (key : String) (keys : List String) (stop : PathEnd)
    (w : World M BoundFunction (HostState δ)) : Prop where
  stopped : ∀ e, stop.error? = some e →
    ctx.getProperty functions host ⟨key :: keys⟩ = some (.error e, ctx.after w, w.host) ∧
    ∀ args, ctx.callProperty functions host ⟨key :: keys⟩ args =
      some (.error e, ctx.after w, w.host)
  reached : ∀ holder value, stop = .reached holder value → ∃ below : Array ScriptValue,
    let handler := nestedHandler (invoke functions) nestingLimit
    let found : Session M BoundFunction (HostState δ) := ⟨w, (below.push holder).push value, none⟩
    let called : Session M BoundFunction (HostState δ) :=
      ⟨w, (found.slots.push value).push holder, none⟩
    (∀ live, ctx.engine.live = some live →
      resolve ⟨key :: keys⟩ handler (ctx.engine.entry live host) = .ok () found) ∧
    ctx.getProperty functions host ⟨key :: keys⟩ =
      ctx.concluded functions host (ctx.marshaller.pop handler found) ∧
    (value = .undefined ∨ value = .null →
      ctx.getProperty functions host ⟨key :: keys⟩ = some (.ok .null, ctx.after w, w.host)) ∧
    ∀ args, ctx.callProperty functions host ⟨key :: keys⟩ args =
        ctx.concluded functions host (callWith ctx.marshaller args handler called) ∧
      ∀ s, pushArguments ctx.marshaller args handler called = .ok () s →
        ∃ xs : List ScriptValue, xs.length = args.length ∧
          s.slots = called.slots ++ xs.toArray ∧
          callWith ctx.marshaller args handler called =
            (check (callTaken value holder xs) >>= fun _ => ctx.marshaller.pop) handler
              { s with slots := found.slots }

end

variable {functions : HostFunctions δ} {ctx : Context M} {host : HostState δ}
  {live : M.State × Array BoundFunction} {handler : Handler M BoundFunction (HostState δ)}
  {holder value : ScriptValue} {key : String} {keys : List String} {stop : PathEnd}
  {w w' : World M BoundFunction (HostState δ)} {s : Session M BoundFunction (HostState δ)}

theorem runProgram_eq_concluded (hlive : ctx.engine.live = some live)
    (program : Crossing M δ Error α) :
    ctx.runProgram functions host program = ctx.concluded functions host
      (program (nestedHandler (invoke functions) nestingLimit) (ctx.engine.entry live host)) := by
  unfold concluded runProgram Engine.protect
  rw [hlive]
  rfl

/-- A result that leaves the stack as it was, or something more on it, is passed on. -/
theorem concluded_of_kept (hv : ctx.isValid = true) (result : Except Error α)
    (more : Array ScriptValue) :
    ctx.concluded functions host
      (match result with
      | .ok a => .ok a ⟨w, ctx.engine.slots ++ more, none⟩
      | .error e => .error e ⟨w, ctx.engine.slots ++ more, none⟩) =
      some (result, ctx.after w, w.host) := by
  obtain ⟨live, hlive⟩ := Option.isSome_iff_exists.mp (isAlive_of_isValid hv)
  have htake : (ctx.engine.slots ++ more).take ctx.engine.slots.size = ctx.engine.slots :=
    take_append_size _ more
  have hdepth : ¬ (ctx.engine.slots ++ more).size < ctx.engine.slots.size := by simp
  unfold concluded runProgram Engine.protect
  rw [if_pos hv, hlive]
  cases result with
  | ok a =>
    simp only [depth, setDepth, attempt, Stacked.read, Stacked.update, bind_apply,
      Option.isSome_none, Bool.false_eq_true, if_false, if_neg hdepth, htake]
    rfl
  | error e =>
    simp only [depth, setDepth, attempt, Stacked.read, Stacked.update, bind_apply,
      Option.isSome_none, Bool.false_eq_true, if_false, if_neg hdepth, htake]
    rfl

/-- One of the two missing values is converted to null. -/
theorem pop_of_missing (m : Marshaller) (hvalue : value = .undefined ∨ value = .null)
    (b : Array ScriptValue) : (m.pop : Crossing M δ Error HostValue) handler
      ⟨w, b.push value, none⟩ = .ok .null ⟨w, b, none⟩ := by
  have hread : (m.read (m.maxDepth + 1) b.size m.maxElements : Crossing M δ Error (HostValue × Nat))
      handler ⟨w, b.push value, none⟩ = .ok (.null, m.maxElements) ⟨w, b.push value, none⟩ := by
    unfold Marshaller.read
    rw [bind_eq_of_ok (slotType_top b)]
    rcases hvalue with rfl | rfl
    · rfl
    · rfl
  have hset : (setDepth b.size : Crossing M δ Error Unit) handler ⟨w, b.push value, none⟩ =
      .ok () ⟨w, b, none⟩ :=
    setDepth_of_append (s := ⟨w, b, none⟩) Array.push_eq_append rfl
  unfold Marshaller.pop
  rw [bind_eq_of_ok (depth_top b)]
  refine (bind_eq_of_ok (attempt_of_ok hread)).trans ?_
  rw [bind_eq_of_ok hset]
  rfl

/-- What is called is the value that was reached, on what holds it. -/
def callReached (m : Marshaller) (args : List HostValue) : Crossing M δ Error HostValue := do
  let function := (← depth) - 1
  (dup function).mapError Error.ofEngineError
  (dup (function - 1)).mapError Error.ofEngineError
  callWith m args

/-- What was reached is put on top once more, and what holds it over that. -/
def takeUp : Crossing M δ Error Unit := do
  let function := (← depth) - 1
  (dup function).mapError Error.ofEngineError
  (dup (function - 1)).mapError Error.ofEngineError

theorem takeUp_eq (b : Array ScriptValue) :
    (takeUp : Crossing M δ Error Unit) handler ⟨w, (b.push holder).push value, none⟩ =
      .ok () ⟨w, (((b.push holder).push value).push value).push holder, none⟩ := by
  have hvalue : ((b.push holder).push value)[b.size + 1]? = some value := by
    rw [← Array.size_push holder]
    exact Array.getElem?_push_size
  have hholder : (((b.push holder).push value).push value)[b.size]? = some holder :=
    Marshaller.getElem?_push_of_some
      (Marshaller.getElem?_push_of_some Array.getElem?_push_size value) value
  unfold takeUp
  rw [bind_eq_of_ok (depth_top (b.push holder)), Array.size_push]
  refine (bind_eq_of_ok (mapError_of_ok (dup_of_getElem? (s := ⟨_, _, _⟩) hvalue))).trans ?_
  exact mapError_of_ok (dup_of_getElem? (s := ⟨_, _, _⟩) hholder)

theorem callReached_eq (m : Marshaller) (args : List HostValue) (b : Array ScriptValue) :
    callReached m args handler ⟨w, (b.push holder).push value, none⟩ =
      callWith m args handler ⟨w, (((b.push holder).push value).push value).push holder, none⟩ := by
  have htake : (callReached m args : Crossing M δ Error HostValue) =
      takeUp >>= fun _ => callWith m args := by
    simp only [callReached, takeUp, bind_assoc]
  rw [htake, bind_eq_of_ok (takeUp_eq b)]

theorem getProperty_eq (hlive : ctx.engine.live = some live) :
    ctx.getProperty functions host ⟨key :: keys⟩ = ctx.concluded functions host
      ((resolve ⟨key :: keys⟩ >>= fun _ => ctx.marshaller.pop)
        (nestedHandler (invoke functions) nestingLimit) (ctx.engine.entry live host)) :=
  runProgram_eq_concluded hlive _

theorem callProperty_eq (hlive : ctx.engine.live = some live) (args : List HostValue) :
    ctx.callProperty functions host ⟨key :: keys⟩ args = ctx.concluded functions host
      ((resolve ⟨key :: keys⟩ >>= fun _ => callReached ctx.marshaller args)
        (nestedHandler (invoke functions) nestingLimit) (ctx.engine.entry live host)) :=
  runProgram_eq_concluded hlive _

theorem answers_of_resolves (hv : ctx.isValid = true) (hlive : ctx.engine.live = some live)
    (h : Resolves (nestedHandler (invoke functions) nestingLimit) key keys
      (ctx.engine.entry live host).world stop w') :
    Answers functions ctx host key keys stop w' := by
  have hleaves := resolve_of_resolves (s := ctx.engine.entry live host) rfl h
  generalize hrun : resolve ⟨key :: keys⟩ (nestedHandler (invoke functions) nestingLimit)
    (ctx.engine.entry live host) = o at hleaves
  cases hleaves with
  | @stopped _ e more he =>
    refine ⟨fun e' he' => ?_, fun _ _ hreached => ?_⟩
    · obtain rfl := Option.some.inj (he.symm.trans he')
      rw [getProperty_eq hlive, bind_eq_of_error hrun]
      refine ⟨concluded_of_kept hv (.error e) more, fun args => ?_⟩
      rw [callProperty_eq hlive, bind_eq_of_error hrun]
      exact concluded_of_kept hv (.error e) more
    · rw [hreached] at he
      cases he
  | reached more holder value =>
    refine ⟨(fun e he' => by cases he'), fun holder' value' hreached => ?_⟩
    obtain ⟨rfl, rfl⟩ : holder = holder' ∧ value = value' := by simpa using hreached
    refine ⟨ctx.engine.slots ++ more, fun live' hlive' => ?_, ?_, fun hvalue => ?_,
      fun args => ⟨?_, fun s hpush => ?_⟩⟩
    · obtain rfl := Option.some.inj (hlive.symm.trans hlive')
      exact hrun
    · rw [getProperty_eq hlive, bind_eq_of_ok hrun]
      rfl
    · rw [getProperty_eq hlive, bind_eq_of_ok hrun, pop_of_missing _ hvalue, ← Array.append_push]
      exact concluded_of_kept hv (.ok HostValue.null) (more.push holder)
    · rw [callProperty_eq hlive, bind_eq_of_ok hrun, callReached_eq]
      rfl
    · exact callWith_of_pushed rfl hpush

theorem concluded_panicked (hv : ctx.isValid = true) (payload : Payload) :
    ctx.concluded functions host
      (.panicked payload w : Outcome M BoundFunction (HostState δ) Error α) =
      some (.error (.internal payload.reason),
        { ctx with engine := ctx.engine.abort payload.reason }, w.host) := by
  obtain ⟨live, hlive⟩ := Option.isSome_iff_exists.mp (isAlive_of_isValid hv)
  unfold concluded runProgram Engine.protect
  rw [if_pos hv, hlive]
  rfl

theorem concluded_exhausted (hv : ctx.isValid = true) : ctx.concluded functions host
    (.exhausted : Outcome M BoundFunction (HostState δ) Error α) = none := by
  obtain ⟨live, hlive⟩ := Option.isSome_iff_exists.mp (isAlive_of_isValid hv)
  unfold concluded runProgram Engine.protect
  rw [if_pos hv, hlive]
  rfl

/-- If the look-ups do not come to an end, both operations are longer than allowed, or both abort
the engine for the same reason. -/
theorem unended_of_not_resolves (hv : ctx.isValid = true) (hlive : ctx.engine.live = some live)
    (h : ∀ stop w', ¬ Resolves (nestedHandler (invoke functions) nestingLimit) key keys
      (ctx.engine.entry live host).world stop w') :
    (ctx.getProperty functions host ⟨key :: keys⟩ = none ∨ ∃ payload w',
      ctx.getProperty functions host ⟨key :: keys⟩ =
        some (.error (.internal (Payload.reason payload)),
        { ctx with engine := ctx.engine.abort payload.reason }, w')) ∧
    ∀ args, ctx.callProperty functions host ⟨key :: keys⟩ args =
      ctx.getProperty functions host ⟨key :: keys⟩ := by
  have hends : ¬ (resolve ⟨key :: keys⟩ : Crossing M δ Error Unit).ends
      (nestedHandler (invoke functions) nestingLimit) (fun _ _ => True) (fun _ _ => True)
      (ctx.engine.entry live host) := fun hends => by
    obtain ⟨stop, w', hresolves⟩ := exists_resolves_of_ends rfl hends
    exact h stop w' hresolves
  unfold ends at hends
  cases hrun : resolve ⟨key :: keys⟩ (nestedHandler (invoke functions) nestingLimit)
      (ctx.engine.entry live host) with
  | ok _ s => exact absurd (by rw [hrun]; trivial) hends
  | error e s => exact absurd (by rw [hrun]; trivial) hends
  | panicked payload w =>
    have hget : ctx.getProperty functions host ⟨key :: keys⟩ =
        ctx.concluded functions host (.panicked payload w) := by
      rw [getProperty_eq hlive, bind_apply, hrun]
    refine ⟨.inr ⟨payload, w.host, hget.trans (concluded_panicked hv payload)⟩, fun args => ?_⟩
    rw [hget, callProperty_eq hlive, bind_apply, hrun]
  | exhausted =>
    have hget : ctx.getProperty functions host ⟨key :: keys⟩ =
        ctx.concluded functions host .exhausted := by
      rw [getProperty_eq hlive, bind_apply, hrun]
    refine ⟨.inl (hget.trans (concluded_exhausted hv)), fun args => ?_⟩
    rw [hget, callProperty_eq hlive, bind_apply, hrun]

/-! ## On the script machine -/

section

open Script

variable {handler : Handler scriptMachine BoundFunction (HostState δ)} {ref : Ref} {name : Units}
  {v : ScriptValue} {w w₁ w₂ : World scriptMachine BoundFunction (HostState δ)}

theorem drive_toObject_object (ref : Ref)
    (w : World scriptMachine BoundFunction (HostState δ)) :
    (scriptMachine.toObject (.object ref) w.machine).drive handler w = .ended (.ok ref) w :=
  congrArg (Act.drive handler · w) (toObject_object ref w.machine)

theorem not_missing_of_toObject
    (hobject : (scriptMachine.toObject v w.machine).drive handler w = .ended (.ok ref) w₁) :
    ¬ (v = .undefined ∨ v = .null) := by
  rintro (rfl | rfl)
  · cases hobject
  · cases hobject

/-- What is missing is looked up without running script, and nothing is found. -/
theorem found_missing
    (hobject : (scriptMachine.toObject v w.machine).drive handler w = .ended (.ok ref) w₁)
    (hplain : Heap.WithoutProxies (State.heap w₁.machine) ref)
    (hhas : ¬ Heap.HasProperty (State.heap w₁.machine) (.ofUnits name) ref) :
    Found handler v name w (.ok (false, .undefined)) w₁ := by
  obtain ⟨found, hasked, hfound⟩ := has_of_withoutProxies name hplain
  obtain rfl : found = false := eq_false_of_ne_true fun h => hhas (hfound.mp h)
  have hanswer := congrArg (Act.drive handler · w₁) hasked
  have hvalue := congrArg (Act.drive handler · w₁) (get_of_not_hasProperty hplain hhas)
  exact .answered (.found hobject hanswer hvalue)

/-- What is there is found. -/
theorem found_eq_true {u : ScriptValue} {found : Bool}
    (hplain : Heap.WithoutProxies (State.heap w₁.machine) ref)
    (hhas : Heap.HasProperty (State.heap w₁.machine) (.ofUnits name) ref)
    (h : Found handler (.object ref) name w₁ (.ok (found, u)) w₂) : found = true := by
  obtain ⟨found', hasked, hfound⟩ := has_of_withoutProxies name hplain
  cases h with
  | answered h =>
    cases h with
    | found hobject hhas' _ =>
      obtain ⟨rfl, rfl⟩ : _ = ref ∧ _ = w₁ := by
        simpa using hobject.symm.trans (drive_toObject_object ref w₁)
      cases hhas'.symm.trans (congrArg (Act.drive handler · _) hasked)
      exact hfound.mpr hhas

/-- If no proxy is in the way, a path has no root exactly if the global object has no property under
the first key, and then nothing has been run. -/
theorem noRoot_iff (hplain : Heap.WithoutProxies (State.heap w.machine) Intrinsic.global.ref)
    (h : Resolves handler key keys w stop w₁) :
    (stop = .noRoot key ↔ ¬ Heap.HasProperty (State.heap w.machine) (.ofUnits (Text.units key))
      Intrinsic.global.ref) ∧ (stop = .noRoot key → w₁ = w) := by
  by_cases hhas : Heap.HasProperty (State.heap w.machine) (.ofUnits (Text.units key))
      Intrinsic.global.ref
  · have hroot : stop ≠ .noRoot key := by
      cases h with
      | noRoot h => exact absurd (found_eq_true hplain hhas h) Bool.false_ne_true
      | threw => exact nofun
      | bound _ hrest => exact hrest.ne_noRoot key
    exact ⟨iff_of_false hroot (not_not_intro hhas), fun hstop => absurd hstop hroot⟩
  · have hmissing : Found handler (.object Intrinsic.global.ref) (Text.units key) w
        (.ok (false, .undefined)) w := found_missing (drive_toObject_object _ w) hplain hhas
    cases h with
    | noRoot h => exact ⟨iff_of_true rfl hhas, fun _ => (found_unique h hmissing).2⟩
    | threw h => cases (found_unique h hmissing).1
    | bound h _ => cases (found_unique h hmissing).1

/-- **Paths are followed alike, to be read and to be called.**  On a context whose global object has
no proxy among its prototypes, wherever the path ends, both operations answer as `Answers` says.  It
has no root exactly if the global object has no property under the first key, of its own or
inherited.  Keys at the end of it lead on from the value that was reached, or are never looked up.
A last key that is missing reads as null.  If the look-ups come to no end at all, that is the same
for both operations too. -/
theorem paths_resolve_alike {functions : HostFunctions δ} {ctx : Context scriptMachine}
    {host : HostState δ} {state : State} {natives : Array BoundFunction}
    (hv : ctx.isValid = true) (hlive : ctx.engine.live = some (state, natives))
    (hplain : state.heap.WithoutProxies Intrinsic.global.ref) (key : String) (keys : List String) :
    let handler : Handler scriptMachine BoundFunction (HostState δ) :=
      nestedHandler (invoke functions) nestingLimit
    let w : World scriptMachine BoundFunction (HostState δ) := ⟨state, natives, host⟩
    (∀ stop w', Resolves handler key keys w stop w' →
      Answers functions ctx host key keys stop w' ∧
      (stop = .noRoot key ↔
        ¬ state.heap.HasProperty (.ofUnits (Text.units key)) Intrinsic.global.ref) ∧
      (stop = .noRoot key → w' = w) ∧
      ∀ more stop' w'', Resolves handler key (keys ++ more) w stop' w'' ↔
        match stop with
        | .reached holder value => Follows handler holder value more w' stop' w''
        | _ => stop' = stop ∧ w'' = w') ∧
    (∀ holder value last ref w' w'', Resolves handler key keys w (.reached holder value) w' →
      (scriptMachine.toObject value w'.machine).drive handler w' = .ended (.ok ref) w'' →
      Heap.WithoutProxies (State.heap w''.machine) ref →
      ¬ Heap.HasProperty (State.heap w''.machine) (.ofUnits (Text.units last)) ref →
      ctx.getProperty functions host ⟨key :: (keys ++ [last])⟩ =
        some (.ok .null, ctx.after w'', w''.host)) ∧
    ((∀ stop w', ¬ Resolves handler key keys w stop w') →
      (ctx.getProperty functions host ⟨key :: keys⟩ = none ∨ ∃ payload host',
        ctx.getProperty functions host ⟨key :: keys⟩ =
          some (.error (.internal (Payload.reason payload)),
            { ctx with engine := ctx.engine.abort payload.reason }, host')) ∧
      ∀ args, ctx.callProperty functions host ⟨key :: keys⟩ args =
        ctx.getProperty functions host ⟨key :: keys⟩) := by
  refine ⟨fun stop w' h => ⟨answers_of_resolves hv hlive h, (noRoot_iff hplain h).1,
    (noRoot_iff hplain h).2, fun more stop' w'' => ?_⟩,
    fun holder value last ref w' w'' h hobject hlast hmissing =>
    ?_, unended_of_not_resolves hv hlive⟩
  · cases stop with
    | reached holder value => exact h.append_reached more
    | noRoot k => exact h.append_stopped rfl more
    | noBase => exact h.append_stopped rfl more
    | threw e => exact h.append_stopped rfl more
  · have hstep : Follows _ holder value [last] w' (.reached value .undefined) w'' :=
      .next (not_missing_of_toObject hobject) (found_missing hobject hlast hmissing) .done
    have hanswers := answers_of_resolves hv hlive ((h.append_reached [last]).mpr hstep)
    obtain ⟨_, _, _, hnull, _⟩ := hanswers.reached _ _ rfl
    exact hnull (.inl rfl)

/-! ## A primitive is looked up as an object -/

/-- A machine whose global object has a boolean under `flag`, and whose booleans inherit an accessor
`self`, which calls a function of the host.  Under `box` it has an object with the same function. -/
def boxes : State where
  heap := ⟨#[
      { (default : Object) with
        named := [(.name (Text.units "flag"), .plain (.boolean true)),
          (.name (Text.units "box"), .plain (.object 35))] },
      default, default, default, default, default, default, default, default, default, default,
      default, default, default,
      { (default : Object) with
        named := [(.name (Text.units "self"), ⟨.accessor (some 34) none, false, false⟩)] },
      default, default, default, default, default, default, default, default, default, default,
      default, default, default, default, default, default, default, default, default,
      { (default : Object) with kind := .function ⟨.native ⟨0⟩, "self", false⟩ },
      { (default : Object) with
        named := [(.name (Text.units "live"), .plain (.boolean true)),
          (.name (Text.units "self"), .plain (.object 34))] }]⟩
  scopes := #[]
  symbols := #[]
  registered := []
  frames := []
  converting := []

/-- The host function that returns its receiver. -/
def returnsThis : HostFunctions Unit := fun _ _ host =>
  .askThis host fun this host => .returned (this.toOption.getD .null) host

/-- A context on the machine. -/
def boxesContext : Context scriptMachine :=
  ⟨⟨some (boxes, #[⟨⟨0⟩, ⟨none, 10, 10⟩⟩]), #[], none, []⟩, {}⟩

/-- The world in which its operations start. -/
def boxesWorld : World scriptMachine BoundFunction (HostState Unit) :=
  ⟨boxes, #[⟨⟨0⟩, ⟨none, 10, 10⟩⟩], ⟨.fresh, ()⟩⟩

/-- The operation has answered with this value. -/
def answers (v : HostValue) (result : Result scriptMachine Unit HostValue) : Bool :=
  match result with
  | some (.ok answer, _) => answer == v
  | _ => false

theorem boxes_withoutProxies (ref : Ref) (hkind : (boxes.heap.lookUp ref).kind matches
    .ordinary | .function _) (hproto : (boxes.heap.lookUp ref).proto = none) :
    boxes.heap.WithoutProxies ref := by
  intro last hchain ends calls constructs hproxy
  rcases hchain.cases_head with rfl | ⟨proto, hproto', -⟩
  · rw [hproxy] at hkind
    cases hkind
  · cases hproto.symm.trans hproto'

theorem boxes_not_hasProperty {ref : Ref} {k : Key} (hfind : (boxes.heap.lookUp ref).find? k = none)
    (hproto : (boxes.heap.lookUp ref).proto = none) : ¬ boxes.heap.HasProperty k ref := by
  rintro (hfind' | ⟨-, hproto', -⟩)
  · cases hfind.symm.trans hfind'
  · cases hproto.symm.trans hproto'

/-- A key that the global object does not have, two keys one after the other, and a last key that is
missing.  To read the second key is to convert the function, and to call it is to call the function
on the object that has it. -/
theorem two_keys_resolve_alike :
    boxesContext.isValid = true ∧ boxes.heap.WithoutProxies Intrinsic.global.ref ∧
    boxesContext.callProperty returnsThis ⟨.fresh, ()⟩ ⟨["nothing", "self"]⟩ [] =
      some (.error (.reference "identifier 'nothing' undefined"), boxesContext, ⟨.fresh, ()⟩) ∧
    Resolves (nestedHandler (invoke returnsThis) nestingLimit) "box" ["self"] boxesWorld
      (.reached (.object 35) (.object 34)) boxesWorld ∧
    answers (.complexObject ⟨1⟩)
      (boxesContext.getProperty returnsThis ⟨.fresh, ()⟩ ⟨["box", "self"]⟩) = true ∧
    (∃ below : Array ScriptValue,
      let called : Session scriptMachine BoundFunction (HostState Unit) :=
        ⟨boxesWorld, (((below.push (.object 35)).push (.object 34)).push (.object 34)).push
          (.object 35), none⟩
      boxesContext.callProperty returnsThis ⟨.fresh, ()⟩ ⟨["box", "self"]⟩ [] =
        boxesContext.concluded returnsThis ⟨.fresh, ()⟩ (callWith boxesContext.marshaller []
          (nestedHandler (invoke returnsThis) nestingLimit) called)) ∧
    answers (.map [(.string "live", .boolean true)])
      (boxesContext.callProperty returnsThis ⟨.fresh, ()⟩ ⟨["box", "self"]⟩ []) = true ∧
    boxesContext.getProperty returnsThis ⟨.fresh, ()⟩ ⟨["box", "self", "nothing"]⟩ =
      some (.ok .null, boxesContext, ⟨.fresh, ()⟩) := by
  have hplain : boxes.heap.WithoutProxies Intrinsic.global.ref := boxes_withoutProxies _ rfl rfl
  have halike (key : String) (keys : List String) :=
    @paths_resolve_alike Unit returnsThis boxesContext
    ⟨.fresh, ()⟩ _ _ rfl rfl hplain key keys
  have hnothing : Resolves (nestedHandler (invoke returnsThis) nestingLimit) "nothing" ["self"]
      boxesWorld (.noRoot "nothing") boxesWorld :=
    .noRoot (found_missing (drive_toObject_object _ _) hplain (boxes_not_hasProperty rfl rfl))
  have hself : Resolves (nestedHandler (invoke returnsThis) nestingLimit) "box" ["self"] boxesWorld
      (.reached (.object 35) (.object 34)) boxesWorld :=
    .bound (.answered (.found (drive_toObject_object _ _) rfl rfl))
      (.next (by simp) (.answered (.found (drive_toObject_object _ _) rfl rfl)) .done)
  have hlast := (halike "box" ["self"]).2.1 _ _ "nothing" 34 _ _ hself (drive_toObject_object 34 _)
    (boxes_withoutProxies _ rfl rfl) (boxes_not_hasProperty rfl rfl)
  obtain ⟨below, -, -, -, hcall⟩ := ((halike "box" ["self"]).1 _ _ hself).1.reached _ _ rfl
  exact ⟨rfl, hplain, ((halike "nothing" ["self"]).1 _ _ hnothing).1.stopped _ rfl |>.2 [], hself,
    by decide +kernel, ⟨below, (hcall []).1⟩, by decide +kernel, hlast⟩

/-- In script, `flag.self` is the boolean under `flag`, since the accessor sees the primitive.  The
path leads to the object that was made of it. -/
theorem getter_sees_object :
    (drive (Run.get Intrinsic.global.ref (.ofUnits (Text.units "flag")))
      boxes).drive (nestedHandler (invoke returnsThis) nestingLimit) boxesWorld =
        .ended (.ok (.boolean true)) boxesWorld ∧
    (∃ w, (drive (Run.getValue (.boolean true) (.ofUnits (Text.units "self")))
      boxes).drive (nestedHandler (invoke returnsThis) nestingLimit) boxesWorld =
        .ended (.ok (.boolean true)) w) ∧
    answers (.map [])
      (boxesContext.getProperty returnsThis ⟨.fresh, ()⟩ ⟨["flag", "self"]⟩) = true ∧
    ∀ ctx host, boxesContext.getProperty returnsThis ⟨.fresh, ()⟩ ⟨["flag", "self"]⟩ ≠
      some (.ok (.boolean true), ctx, host) := by
  have hmap : answers (.map []) (boxesContext.getProperty returnsThis ⟨.fresh, ()⟩
      ⟨["flag", "self"]⟩) = true := by decide +kernel
  refine ⟨rfl, ⟨_, rfl⟩, hmap, fun ctx host hboolean => ?_⟩
  rw [hboolean] at hmap
  cases hmap

end

end Context

end ScriptHost
