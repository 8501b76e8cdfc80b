import ScriptHost.Proofs.Context.HostCalls
import ScriptHost.Proofs.Script.Assigning
import ScriptHost.Proofs.Script.Building
import ScriptHost.Proofs.Script.Throwing
import ScriptHost.Proofs.Stack.Uncaught

/-!
# Defining host functions

A host function is defined by an assignment to the global object, and like any assignment that may
come to a setter or to a proxy, which can do what they like with the function.  Otherwise no script
is run before it is settled what becomes of the property.

* `Offers`, `CallsHost`: what it is that the property holds the function, and that to call the one
  is to call the other;
* `Installs`, `Refuses`: the two ends of a definition;
* `defineFunction_of_unwatched`: **the property reads as the function and calls it,
  or nothing has changed**.
-/

namespace ScriptHost

open Stack Stacked Crossing Script

variable {δ : Type}

/-! ## Assigning to the global object -/

section

variable {driver : Driver} {handler : Handler (scriptMachineBy driver) BoundFunction (HostState δ)}
  {s : State} {natives : Array BoundFunction} {host : HostState δ} {slots : Array ScriptValue}
  {name : String} {v : ScriptValue} {p : Property}

theorem putGlobal_eq (name : String) (v : ScriptValue) :
    (putGlobal (Text.utf8 name) : Crossing (scriptMachineBy driver) δ EngineError Unit) handler
      (Marshaller.sessionOf driver s natives host (slots.push v)) =
    perform ((scriptMachineBy driver).setGlobal (Text.units name) v) handler
      (Marshaller.sessionOf driver s natives host slots) := by
  unfold putGlobal
  rw [bind_eq_of_ok (takeTop_of_push rfl), Text.decodeUnits_utf8]

variable (hkind : (s.heap.lookUp Intrinsic.global.ref).kind = .ordinary)
  (hunwatched : s.heap.Unwatched (.ofUnits (Text.units name)) Intrinsic.global.ref)
include hkind hunwatched

theorem putGlobal_of_assigned
    (hp : s.heap.assigned? Intrinsic.global.ref (.ofUnits (Text.units name)) v = some p) :
    (check (putGlobal (Text.utf8 name)) : Crossing (scriptMachineBy driver) δ Error Unit) handler
      (Marshaller.sessionOf driver s natives host (slots.push v)) =
    .ok () (Marshaller.sessionOf driver (s.replaced Intrinsic.global.ref
      ((s.heap.lookUp Intrinsic.global.ref).put (.ofUnits (Text.units name)) p)) natives
        host slots) := by
  have hset : (scriptMachineBy driver).setGlobal (Text.units name) v s =
      .done (s.replaced Intrinsic.global.ref _) (.ok ()) :=
    driver.drive_done (set_eq_some hkind hunwatched hp)
  have hput : (putGlobal (Text.utf8 name) : Crossing (scriptMachineBy driver) δ EngineError Unit)
      handler (Marshaller.sessionOf driver s natives host (slots.push v)) = _ :=
    (putGlobal_eq name v).trans (perform_of_ok (congrArg (Act.drive handler · _) hset))
  exact bind_eq_of_ok (attempt_of_ok hput)

/-- The global object refuses the value, and a type error is reported. -/
theorem putGlobal_of_refused
    (hnone : s.heap.assigned? Intrinsic.global.ref (.ofUnits (Text.units name)) v = none) :
    ∃ message trace, (check (putGlobal (Text.utf8 name)) : Crossing (scriptMachineBy driver) δ Error
      Unit) handler (Marshaller.sessionOf driver s natives host (slots.push v)) =
    classify .thrown handler (Marshaller.sessionOf driver (s.grown [tracedError message trace])
      natives host (slots.push (.object s.next))) := by
  obtain ⟨message, hset⟩ := set_eq_none hkind hunwatched hnone
  rw [throwTypeError_eq] at hset
  have hset : (scriptMachineBy driver).setGlobal (Text.units name) v s =
      .done (s.grown [typeErrorObject message]) (.error ⟨.value (.object s.next), _⟩) :=
    driver.drive_done hset
  obtain ⟨trace, hthrown⟩ := thrownAs_typeError driver handler s natives host message _
  have hput : (putGlobal (Text.utf8 name) : Crossing (scriptMachineBy driver) δ EngineError Unit)
      handler (Marshaller.sessionOf driver s natives host (slots.push v)) = _ :=
    (putGlobal_eq name v).trans
      (perform_of_thrownAs (congrArg (Act.drive handler · _) hset) hthrown)
  exact ⟨message, trace, bind_eq_of_ok (attempt_of_error hput)⟩

end

/-! ## Calling a host function -/

/-- What a host function answers is the answer of the call. -/
theorem Script.call_native {s : State} {ref : Ref} {id : NativeId} {label : String}
    {constructs : Bool}
    (hkind : (s.heap.lookUp ref).kind = .function ⟨.native id, label, constructs⟩)
    (hroom : activeCount s < frameLimit) (this : ScriptValue) (args : List ScriptValue) :
    scriptMachine.call ref this args s =
      .native { s with frames := .builtin label :: s.frames } id this args fun s' reply =>
        .done { s' with frames := s.frames } ((nativeReply s reply).mapError Signal.failure) := by
  have henter : enter s ⟨ref, this, args, none, none⟩ =
      .native { s with frames := .builtin label :: s.frames } id := by
    simp only [enter, hkind, if_neg (Nat.not_le_of_lt hroom)]
  show driveOutermost requestLimit s.frames (.call s ⟨ref, this, args, none, none⟩ fun s reply =>
    .done s reply) = _
  rw [show requestLimit = (requestLimit - 2) + 1 + 1 from rfl, driveOutermost, henter]
  dsimp only
  congr 1
  funext s' reply
  cases reply with
  | ok v => rfl
  | error v => rfl

namespace Marshaller

variable {driver : Driver} {handler : Handler (scriptMachineBy driver) BoundFunction (HostState δ)}

/-- Arguments are built one after the other, as the elements of an array are. -/
theorem conveysAll_built (m : Marshaller)
    (handler : Handler (scriptMachineBy driver) BoundFunction (HostState δ))
    {args : List HostValue} {s : State} (hargs : ∀ v ∈ args, v.Portable ∧ v.depth ≤ m.maxDepth ∧
      ∀ n < v.longest, s.heap.TakesItem n) (natives : Array BoundFunction) (host : HostState δ)
    (slots : Array ScriptValue) {b : Built (List ScriptValue)}
    (hb : m.builtItems s.next natives.size args = b) :
    ConveysAll m handler slots args ⟨s, natives, host⟩ b.made
      ⟨s.grown b.objects, natives ++ b.functions.toArray, host⟩ := by
  induction args generalizing s natives slots b with
  | nil =>
    subst hb
    simp only [builtItems, State.grown_nil, Array.append_empty]
    exact .nil slots _
  | cons v rest ih =>
    obtain ⟨⟨hportable, hdepth, htakes⟩, hrest⟩ := List.forall_mem_cons.mp hargs
    have hv := push_of_takesItem m driver handler s natives host slots hportable hdepth htakes
    rw [builtItems] at hb
    dsimp only at hv hb
    generalize m.built s.next natives.size v = first at hv hb
    obtain ⟨more, hmore⟩ : ∃ more, m.builtItems (s.next + first.objects.length)
      (natives.size + first.functions.length) rest = more := ⟨_, rfl⟩
    rw [hmore] at hb
    subst hb
    have htakes (w : HostValue) (hw : w ∈ rest) : w.Portable ∧ w.depth ≤ m.maxDepth ∧
        ∀ n < w.longest, (s.grown first.objects).heap.TakesItem n := by
      obtain ⟨hportable, hdepth, htakes⟩ := hrest w hw
      exact ⟨hportable, hdepth, fun n hn => (htakes n hn).grown _⟩
    have hvs : ConveysAll m handler (slots.push first.made) rest
        ⟨s.grown first.objects, natives ++ first.functions.toArray, host⟩ more.made
        ⟨(s.grown first.objects).grown more.objects,
          natives ++ first.functions.toArray ++ more.functions.toArray, host⟩ :=
      ih htakes _ _ (by rw [State.next_grown, size_append, hmore])
    have hnatives : natives ++ first.functions.toArray ++ more.functions.toArray =
        natives ++ (first.functions ++ more.functions).toArray := by simp
    rw [State.grown_grown, hnatives] at hvs
    exact .cons hv hvs

end Marshaller

namespace Context

/-- The property of the global object under the name holds a function of this name, and that calls
this host function. -/
structure Offers (s : State) (natives : Array BoundFunction) (name : String) (ref : Ref)
    (bound : BoundFunction) :
    Prop where
  property : ∃ p, s.heap.search (.ofUnits (Text.units name)) Intrinsic.global.ref = .found p ∧
    p.value? = some (.object ref)
  inside : ref < s.next
  function : ∃ id, s.heap.lookUp ref = nativeObject (Text.units name) id ∧
    natives[id.index]? = some bound

/-- In this world the function of the name has been entered. -/
def entered (name : String) (w : World scriptMachine BoundFunction (HostState δ)) :
    World scriptMachine BoundFunction (HostState δ) :=
  let s : State := w.machine
  { w with machine := { s with frames := .builtin (frameLabel (Text.units name)) :: s.frames } }

/-- And in this one it has been left for what was active before. -/
def left (frames : List Script.Frame) (w : World scriptMachine BoundFunction (HostState δ)) :
    World scriptMachine BoundFunction (HostState δ) :=
  let s : State := w.machine
  { w with machine := { s with frames := frames } }

/-- To call the property under the name is to call the host function once, on the values that have
been made of the arguments and with the global object as its receiver,
and to convert what it returns. -/
structure CallsHost (functions : HostFunctions δ) (ctx : Context scriptMachine) (host : HostState δ)
    (name : String) (args : List HostValue) (s : State) (natives : Array BoundFunction) (ref : Ref)
    (bound : BoundFunction) (b : Built (List ScriptValue)) : Prop where
  once : ∃ o, CallTarget.Calls (nestedHandler (invoke functions) nestingLimit)
    ctx.config.defaultFilename
    ctx.marshaller (.property ⟨[name]⟩) args ⟨⟨s, natives, host⟩, ctx.engine.slots, none⟩
    [⟨ref, .object Intrinsic.global.ref, b.made⟩] o ∧
    ctx.callProperty functions host ⟨[name]⟩ args = ctx.concluded functions host o
  native : let w : World scriptMachine BoundFunction (HostState δ) :=
      ⟨s.grown b.objects, natives ++ b.functions.toArray, host⟩
    ∃ next, (scriptMachine.call ref (.object Intrinsic.global.ref) b.made w.machine).CallsThen
      (nestedHandler (invoke functions) nestingLimit) w
      ⟨bound, .object Intrinsic.global.ref, b.made, entered name w⟩ next
  returned : let w : World scriptMachine BoundFunction (HostState δ) :=
      ⟨s.grown b.objects, natives ++ b.functions.toArray, host⟩
    ∃ more : Array ScriptValue, ∀ v w', nestedHandler (invoke functions) nestingLimit bound
        (.object Intrinsic.global.ref) b.made (entered name w) = .ended (.ok v) w' →
      ctx.callProperty functions host ⟨[name]⟩ args = ctx.concluded functions host
        (ctx.marshaller.pop (nestedHandler (invoke functions) nestingLimit)
          ⟨left s.frames w', (ctx.engine.slots ++ more).push v, none⟩)

variable {functions : HostFunctions δ} {ctx : Context scriptMachine} {host : HostState δ}
  {s : State} {natives : Array BoundFunction} {name : String} {ref : Ref} {bound : BoundFunction}
  {args : List HostValue}

/-- The property is there, and reads as the function without running script. -/
theorem Offers.reads (h : Offers s natives name ref bound) :
    scriptMachine.has Intrinsic.global.ref (Text.units name) s = .done s (.ok true) ∧
      scriptMachine.get Intrinsic.global.ref (Text.units name) s = .done s (.ok (.object ref)) := by
  obtain ⟨p, hfound, hvalue⟩ := h.property
  exact ⟨drive_of_done (has_of_found hfound), drive_of_done (get_of_found hfound hvalue)⟩

theorem Offers.resolves {handler : Handler scriptMachine BoundFunction (HostState δ)}
    (h : Offers s natives name ref bound) (host : HostState δ) :
    Resolves handler name [] ⟨s, natives, host⟩
      (.reached (.object Intrinsic.global.ref) (.object ref)) ⟨s, natives, host⟩ := by
  obtain ⟨hhas, hget⟩ := h.reads
  let w : World scriptMachine BoundFunction (HostState δ) := ⟨s, natives, host⟩
  exact .bound (.answered (.found (drive_toObject_object _ w)
    (congrArg (Act.drive handler · w) hhas) (congrArg (Act.drive handler · w) hget))) .done

/-- The machine enters the function by calling the host. -/
theorem Offers.callsThen (h : Offers s natives name ref bound)
    (handler : Handler scriptMachine BoundFunction (HostState δ))
    (hroom : activeCount s < frameLimit)
    (objects : List Object) (more : Array BoundFunction) (this : ScriptValue)
    (xs : List ScriptValue) (host : HostState δ) :
    let w : World scriptMachine BoundFunction (HostState δ) :=
      ⟨s.grown objects, natives ++ more, host⟩
    ∃ next, (scriptMachine.call ref this xs w.machine).CallsThen handler w
        ⟨bound, this, xs, entered name w⟩ next ∧
      ∀ v w', (next w'.machine (.ok v)).drive handler w' = .ended (.ok v) (left s.frames w') := by
  intro w
  obtain ⟨id, hobject, hnative⟩ := h.function
  have hkind : ((s.grown objects).heap.lookUp ref).kind =
      .function ⟨.native id, frameLabel (Text.units name), false⟩ := by
    rw [State.lookUp_grown_of_lt h.inside, hobject]
    rfl
  -- What the arguments have bound comes behind, so the number still stands for this host function.
  have hmore : (natives ++ more)[id.index]? = some bound := by
    obtain ⟨hlt, -⟩ := Array.getElem?_eq_some_iff.mp hnative
    rw [Array.getElem?_append_left hlt, hnative]
  let next : State → Except ScriptValue ScriptValue → Act State ScriptValue := fun s' reply =>
    .done { s' with frames := s.frames }
      ((nativeReply (s.grown objects) reply).mapError Signal.failure)
  refine ⟨next, ?_, fun v w' => rfl⟩
  rw [show scriptMachine.call ref this xs w.machine = _ from call_native hkind hroom this xs]
  exact .here hmore

/-- The path leads to the function, which is put on top with its receiver over it. -/
theorem Offers.exists_find (h : Offers s natives name ref bound)
    (handler : Handler scriptMachine BoundFunction (HostState δ)) (filename : String)
    (host : HostState δ) (slots : Array ScriptValue) : ∃ more,
      (CallTarget.find filename (.property ⟨[name]⟩) : Crossing scriptMachine δ Error Unit) handler
        ⟨⟨s, natives, host⟩, slots, none⟩ =
      .ok () ⟨⟨s, natives, host⟩,
        ((slots ++ more).push (.object ref)).push (.object Intrinsic.global.ref), none⟩ := by
  let entry : Session scriptMachine BoundFunction (HostState δ) := ⟨⟨s, natives, host⟩, slots, none⟩
  have hresolves : Resolves handler name [] ⟨s, natives, host⟩ _ ⟨s, natives, host⟩ :=
    h.resolves host
  have hleaves := resolve_of_resolves (s := entry) rfl hresolves
  generalize hrun : resolve ⟨[name]⟩ handler entry = o at hleaves
  cases hleaves with
  | reached more =>
    have hfind : (resolve ⟨[name]⟩ >>= fun _ => takeUp : Crossing scriptMachine δ Error Unit)
        handler entry = _ := (bind_eq_of_ok hrun).trans (takeUp_eq (slots ++ more))
    rw [← Array.append_push, ← Array.append_push] at hfind
    exact ⟨_, hfind⟩
  | stopped more he => cases he

theorem Offers.callee (h : Offers s natives name ref bound) (objects : List Object) :
    Callee (M := scriptMachine) (s.grown objects) (.object ref) ref := by
  obtain ⟨id, hobject, -⟩ := h.function
  refine ⟨rfl, ?_⟩
  show shapeOf _ _ = _
  rw [shapeOf, State.lookUp_grown_of_lt h.inside, hobject]
  rfl

theorem Offers.callNoted_eq (h : Offers s natives name ref bound)
    (handler : Handler scriptMachine BoundFunction (HostState δ)) (m : Marshaller)
    (filename : String) (host : HostState δ) (slots : Array ScriptValue)
    (hargs : ∀ v ∈ args, v.Portable ∧ v.depth ≤ m.maxDepth ∧ ∀ n < v.longest, s.heap.TakesItem n)
    {b : Built (List ScriptValue)} (hb : m.builtItems s.next natives.size args = b) : ∃ more,
      (CallTarget.property ⟨[name]⟩).callNoted m filename args handler
      ⟨⟨s, natives, host⟩, slots, none⟩ =
      ([⟨ref, .object Intrinsic.global.ref, b.made⟩],
        (check (perform (scriptMachine.call ref (.object Intrinsic.global.ref) b.made) >>=
          pushValue) >>= fun _ => m.pop) handler
          ⟨⟨s.grown b.objects, natives ++ b.functions.toArray, host⟩, slots ++ more, none⟩) := by
  obtain ⟨more, hfind⟩ := h.exists_find handler filename host slots
  have hconveys := m.conveysAll_built handler hargs natives host
    (((slots ++ more).push (.object ref)).push (.object Intrinsic.global.ref)) hb
  exact ⟨more, (Logged.quietly_bind_of_ok hfind).trans
    (callWithNoted_of_conveysAll hconveys (callTakenNoted_of_callee (h.callee b.objects)))⟩

/-- A call that returns is followed by the conversion of what it returns. -/
theorem called_of_ended {handler : Handler scriptMachine BoundFunction (HostState δ)}
    (m : Marshaller) {this v : ScriptValue} {xs : List ScriptValue}
    {w w' : World scriptMachine BoundFunction (HostState δ)} (slots : Array ScriptValue)
    (hdrive : (scriptMachine.call ref this xs w.machine).drive handler w = .ended (.ok v) w') :
    (check (perform (scriptMachine.call ref this xs) >>= pushValue) >>= fun _ => m.pop :
      Crossing scriptMachine δ Error HostValue) handler ⟨w, slots, none⟩ =
      m.pop handler ⟨w', slots.push v, none⟩ := by
  have hpush : (perform (scriptMachine.call ref this xs) >>= pushValue :
    Crossing scriptMachine δ EngineError Unit)
      handler ⟨w, slots, none⟩ = .ok () ⟨w', slots.push v, none⟩ :=
    bind_eq_of_ok (perform_of_ok (s := ⟨w, slots, none⟩) hdrive)
  have hcheck : (check (perform (scriptMachine.call ref this xs) >>= pushValue) :
      Crossing scriptMachine δ Error Unit) handler ⟨w, slots, none⟩ =
        .ok () ⟨w', slots.push v, none⟩ :=
    bind_eq_of_ok (attempt_of_ok hpush)
  exact bind_eq_of_ok hcheck

/-- **To call the property is to call the host function.** -/
theorem callsHost_of_offers (hv : ctx.isValid = true) (hlive : ctx.engine.live = some (s, natives))
    (h : Offers s natives name ref bound) (hroom : activeCount s < frameLimit)
    (hargs : ∀ v ∈ args, v.Portable ∧ v.depth ≤ ctx.config.maxDepth ∧
      ∀ n < v.longest, s.heap.TakesItem n) :
    ctx.CallsHost functions host name args s natives ref bound
      (ctx.marshaller.builtItems s.next natives.size args) := by
  generalize hb : ctx.marshaller.builtItems s.next natives.size args = b
  let handler : Handler scriptMachine BoundFunction (HostState δ) :=
    nestedHandler (invoke functions) nestingLimit
  let entry : Session scriptMachine BoundFunction (HostState δ) :=
    ⟨⟨s, natives, host⟩, ctx.engine.slots, none⟩
  obtain ⟨more, hnoted⟩ := h.callNoted_eq handler ctx.marshaller ctx.config.defaultFilename host
    ctx.engine.slots hargs hb
  have hcalls : CallTarget.Calls handler ctx.config.defaultFilename ctx.marshaller
    (.property ⟨[name]⟩) args entry
      _ _ := CallTarget.calls_noted (s := entry) ctx.marshaller args rfl
  have hanswer : (CallTarget.property ⟨[name]⟩).call functions ctx host args =
    ctx.concluded functions host
      ((CallTarget.property ⟨[name]⟩).callNoted ctx.marshaller ctx.config.defaultFilename args
        handler entry).2 :=
    CallTarget.call_eq_concluded hv hlive args
  rw [hnoted] at hcalls hanswer
  obtain ⟨next, hthen, hnext⟩ := h.callsThen handler hroom b.objects b.functions.toArray
    (.object Intrinsic.global.ref) b.made host
  refine ⟨⟨_, hcalls, hanswer⟩, ⟨next, hthen⟩, more, fun v w' hreply => hanswer.trans ?_⟩
  exact congrArg (ctx.concluded functions host)
    (called_of_ended ctx.marshaller _ ((hthen.drive_eq hreply).trans (hnext v w')))

/-! ## Defining -/

/-- The state once a host function of this name has been made. -/
def withFunction (s : State) (natives : Array BoundFunction) (name : String) : State :=
  s.grown [nativeObject (Text.units name) ⟨natives.size⟩]

/-- And once the global object has been given this property under the name. -/
def installed (s : State) (natives : Array BoundFunction) (name : String) (p : Property) : State :=
  (withFunction s natives name).replaced Intrinsic.global.ref
    ((s.heap.lookUp Intrinsic.global.ref).put (.ofUnits (Text.units name)) p)

section

variable (functions : HostFunctions δ) (ctx : Context scriptMachine) (host : HostState δ)
  (name : String) (function : CallableId) (s : State) (natives : Array BoundFunction)

/-- The definition answers with success.  Then the property of the global object reads as the new
function, and to call it is to call the host function, on all arguments that can be converted. -/
structure Installs (p : Property) : Prop where
  answer : ctx.defineFunction functions host name function = some (.ok (),
    ctx.after ⟨installed s natives name p, natives.push ⟨function, ctx.marshaller⟩, host⟩, host)
  offers : Offers (installed s natives name p) (natives.push ⟨function, ctx.marshaller⟩) name s.next
    ⟨function, ctx.marshaller⟩
  reads : scriptMachine.get Intrinsic.global.ref (Text.units name) (installed s natives name p) =
    .done (installed s natives name p) (.ok (.object s.next))
  calls : activeCount s < frameLimit → ∀ args : List HostValue,
    (∀ v ∈ args, v.Portable ∧ v.depth ≤ ctx.config.maxDepth ∧
      ∀ n < v.longest, (installed s natives name p).heap.TakesItem n) →
    let natives' := natives.push ⟨function, ctx.marshaller⟩
    let w : World scriptMachine BoundFunction (HostState δ) :=
      ⟨installed s natives name p, natives', host⟩
    (ctx.after w).CallsHost functions host name args (installed s natives name p) natives' s.next
      ⟨function, ctx.marshaller⟩
      (ctx.marshaller.builtItems (installed s natives name p).next natives'.size args)

/-- The definition answers with an error.  It is reported in a state where there are two more
objects, and if that runs no script then all that there was is what it was. -/
structure Refuses : Prop where
  reported : ∃ message trace, ∃ o : Outcome scriptMachine BoundFunction (HostState δ) Error Unit,
    Reports (nestedHandler (invoke functions) nestingLimit) ctx.engine.slots (.object (s.next + 1))
      ⟨(withFunction s natives name).grown [tracedError message trace],
        natives.push ⟨function, ctx.marshaller⟩, host⟩ o ∧
    ctx.defineFunction functions host name function = ctx.concluded functions host o
  unchanged : (∀ last, s.heap.OnChain Intrinsic.typeErrorPrototype.ref last → last < s.next) →
    s.heap.Quiet (.ofUnits (Text.units "name")) Intrinsic.typeErrorPrototype.ref →
    ∃ e objects, ctx.defineFunction functions host name function = some (.error e,
        ctx.after ⟨s.grown objects, natives.push ⟨function, ctx.marshaller⟩, host⟩, host) ∧
      (∀ ref < s.next, (s.grown objects).heap.lookUp ref = s.heap.lookUp ref) ∧
      ∀ k, (s.grown objects).heap.search k Intrinsic.global.ref =
        s.heap.search k Intrinsic.global.ref

end

variable {function : CallableId} {p : Property}

theorem defineFunction_eq_concluded (hlive : ctx.engine.live = some (s, natives))
    (functions : HostFunctions δ)
    (host : HostState δ) (name : String) (function : CallableId) : ctx.defineFunction functions host
    name function =
      ctx.concluded functions host
      ((check (putGlobal (Text.utf8 name)) : Crossing scriptMachine δ Error Unit)
        (nestedHandler (invoke functions) nestingLimit)
        (Marshaller.sessionOf .trampoline (withFunction s natives name)
          (natives.push ⟨function, ctx.marshaller⟩) host
            (ctx.engine.slots.push (.object s.next)))) := by
  rw [Array.push_eq_append]
  refine (runProgram_eq_concluded hlive _).trans (congrArg (ctx.concluded functions host) ?_)
  exact bind_eq_of_ok (Marshaller.pushNative_run name ⟨function, ctx.marshaller⟩)

theorem offers_installed (hkind : (s.heap.lookUp Intrinsic.global.ref).kind = .ordinary)
    (hlt : Intrinsic.global.ref < s.next) (bound : BoundFunction)
    (hslot : p.slot = .data (.object s.next) true) :
    Offers (installed s natives name p) (natives.push bound) name s.next bound where
  property := by
    have hlt : Intrinsic.global.ref < (withFunction s natives name).next := by
      rw [withFunction, State.next_grown]
      exact Nat.lt_add_right _ hlt
    refine ⟨p, search_replaced hlt hkind, ?_⟩
    rw [Property.value?, hslot]
  inside := by
    rw [installed, next_replaced, withFunction, State.next_grown]
    exact Nat.lt_add_one s.next
  function := by
    refine ⟨⟨natives.size⟩, ?_, Array.getElem?_push_size⟩
    rw [installed, lookUp_replaced_of_ne (Nat.ne_of_gt hlt), withFunction, State.lookUp_next]

section

variable (hv : ctx.isValid = true) (hlive : ctx.engine.live = some (s, natives))
  (hkind : (s.heap.lookUp Intrinsic.global.ref).kind = .ordinary)
  (hin : ∀ last, s.heap.OnChain Intrinsic.global.ref last → last < s.next)
  (hunwatched : s.heap.Unwatched (.ofUnits (Text.units name)) Intrinsic.global.ref)
include hv hlive hkind hin hunwatched

theorem installs_of_assigned
    (hp : s.heap.assigned? Intrinsic.global.ref (.ofUnits (Text.units name))
    (.object s.next) = some p) : ctx.Installs functions host name function s natives p := by
  let bound : BoundFunction := ⟨function, ctx.marshaller⟩
  have hlt : Intrinsic.global.ref < s.next := hin _ (.refl _ _)
  have hsame : (withFunction s natives name).heap.lookUp Intrinsic.global.ref =
      s.heap.lookUp Intrinsic.global.ref := lookUp_grown hin _
  have hp : (withFunction s natives name).heap.assigned? Intrinsic.global.ref
      (.ofUnits (Text.units name)) (.object s.next) = some p := (assigned?_grown hin _).trans hp
  have hput : (check (putGlobal (Text.utf8 name)) : Crossing scriptMachine δ Error Unit)
      (nestedHandler (invoke functions) nestingLimit)
      (Marshaller.sessionOf .trampoline (withFunction s natives name) (natives.push bound) host
        (ctx.engine.slots.push (.object s.next))) = _ :=
    putGlobal_of_assigned ((congrArg Object.kind hsame).trans hkind) (hunwatched.grown hin _) hp
  rw [hsame] at hput
  have hoffers : Offers (installed s natives name p) (natives.push bound) name s.next bound :=
    offers_installed hkind hlt bound (slot_of_assigned? hp)
  have hanswer := (defineFunction_eq_concluded hlive functions host name function).trans
    (congrArg (ctx.concluded functions host) hput)
  exact {
    answer := hanswer.trans (concluded_of_kept hv (.ok ()) #[])
    offers := hoffers
    reads := hoffers.reads.2
    calls := fun hroom args hargs =>
      callsHost_of_offers (isValid_of_live hv _ ctx.engine.slots ctx.config) rfl
        hoffers hroom hargs }

theorem refuses_of_not_assigned
    (hnone : s.heap.assigned? Intrinsic.global.ref (.ofUnits (Text.units name))
    (.object s.next) = none) : ctx.Refuses functions host name function s natives := by
  let bound : BoundFunction := ⟨function, ctx.marshaller⟩
  let made : State := withFunction s natives name
  let handler : Handler scriptMachine BoundFunction (HostState δ) :=
    nestedHandler (invoke functions) nestingLimit
  have hsame : made.heap.lookUp Intrinsic.global.ref = s.heap.lookUp Intrinsic.global.ref :=
    lookUp_grown hin _
  have hnone : made.heap.assigned? Intrinsic.global.ref (.ofUnits (Text.units name))
      (.object s.next) = none :=
    (assigned?_grown hin _).trans hnone
  -- The function has taken the next place, so the error takes the one behind it.
  have hnext : made.next = s.next + 1 := State.next_grown s _
  obtain ⟨message, trace, hput⟩ : ∃ message trace,
      (check (putGlobal (Text.utf8 name)) : Crossing scriptMachine δ Error Unit) handler
        (Marshaller.sessionOf .trampoline made (natives.push bound) host
          (ctx.engine.slots.push (.object s.next))) =
      (classify .thrown : Crossing scriptMachine δ Error Unit) handler
        (Marshaller.sessionOf .trampoline (made.grown [tracedError message trace])
          (natives.push bound) host (ctx.engine.slots.push (.object made.next))) :=
    putGlobal_of_refused ((congrArg Object.kind hsame).trans hkind) (hunwatched.grown hin _) hnone
  have hanswer := (defineFunction_eq_concluded hlive functions host name function).trans
    (congrArg (ctx.concluded functions host) hput)
  rw [hnext] at hanswer
  refine ⟨⟨message, trace, _, ?_, hanswer⟩, fun hchain hquiet => ?_⟩
  · have hreports := reports_classify handler ctx.engine.slots (.object (s.next + 1))
      ⟨made.grown [tracedError message trace], natives.push bound, host⟩
      (pure : Unit → Crossing scriptMachine δ Error Unit)
    rwa [bind_pure] at hreports
  · obtain ⟨e, new, hclassify⟩ := exists_classify_typeError (s := made) handler (natives.push bound)
      host ctx.engine.slots message trace (inside_grown hchain _) (hquiet.grown hchain _)
    have hmade : made.grown (tracedError message trace :: new) =
        s.grown (nativeObject (Text.units name) ⟨natives.size⟩ :: tracedError message
          trace :: new) :=
      State.grown_grown s _ _
    rw [hnext, hmade] at hclassify
    have hanswer := hanswer.trans (congrArg (ctx.concluded functions host) hclassify)
    exact ⟨e, _, hanswer.trans (concluded_of_kept hv (.error e) #[]),
      fun ref hlt => State.lookUp_grown_of_lt hlt _, fun k => search_grown hin _⟩

/-- **A function is defined, or nothing has changed**, if the assignment meets neither a setter nor
a proxy.  Which of the two it is can be read off the global object. -/
theorem defineFunction_of_unwatched (functions : HostFunctions δ) (host : HostState δ)
    (function : CallableId) :
    (∀ p, s.heap.assigned? Intrinsic.global.ref (.ofUnits (Text.units name)) (.object s.next) =
        some p → ctx.Installs functions host name function s natives p) ∧
    (s.heap.assigned? Intrinsic.global.ref (.ofUnits (Text.units name)) (.object s.next) = none →
      ctx.Refuses functions host name function s natives) :=
  ⟨fun _ hp => installs_of_assigned hv hlive hkind hin hunwatched hp,
    fun hnone => refuses_of_not_assigned hv hlive hkind hin hunwatched hnone⟩

end

/-! ### A flag that is replaced -/

/-- A machine whose global object has a flag.  It takes new properties or not. -/
def flagState (extensible : Bool) : State where
  heap := ⟨#[
      { (default : Object) with
        extensible := extensible
        named := [(.name (Text.units "flag"), .plain (.boolean true))] },
      default, default, default, default, default]⟩
  scopes := #[]
  symbols := #[]
  registered := []
  frames := []
  converting := []

/-- A context on the machine. -/
def flagContext (extensible : Bool) : Context scriptMachine :=
  ⟨⟨some (flagState extensible, #[]), #[], none, []⟩, {}⟩

/-- The host function that returns null. -/
def returnsNull : HostFunctions Unit := fun _ _ host => .returned .null host

theorem inside_flag (extensible : Bool) (ref : Ref) (href : ref ≤ 5) (last : Ref)
    (hchain : (flagState extensible).heap.OnChain ref last) : last <
      (flagState extensible).next := by
  have hproto : ((flagState extensible).heap.lookUp ref).proto = none := by
    match ref, href with
    | 0, _ | 1, _ | 2, _ | 3, _ | 4, _ | 5, _ => rfl
  rcases hchain.cases_head with rfl | ⟨proto, hsome, -⟩
  · exact Nat.lt_succ_of_le href
  · cases hproto.symm.trans hsome

/-- A function that returns null is defined over the flag and called.  A new property it does not
become if the global object takes none. -/
theorem defineFunction_of_unwatched_flag :
    let host : HostState Unit := ⟨.fresh, ()⟩
    (∃ ctx ctx', (flagContext true).defineFunction returnsNull host "flag" ⟨0⟩ =
      some (.ok (), ctx, host) ∧
      ctx.callProperty returnsNull host ⟨["flag"]⟩ [] = some (.ok .null, ctx', host)) ∧
    ∃ e ctx, (flagContext false).defineFunction returnsNull host "other" ⟨0⟩ =
      some (.error e, ctx, host) := by
  intro host
  have hflag : (flagState true).heap.Unwatched (.ofUnits (Text.units "flag"))
      Intrinsic.global.ref :=
    ⟨fun _ => Search.noConfusion, fun _ _ => Search.noConfusion, fun _ _ _ _ h => by cases h⟩
  have hother : (flagState false).heap.Unwatched (.ofUnits (Text.units "other"))
      Intrinsic.global.ref :=
    ⟨fun _ => Search.noConfusion, fun _ _ => Search.noConfusion, fun _ _ _ _ h => by cases h⟩
  constructor
  · have h := (@defineFunction_of_unwatched Unit (flagContext true) (flagState true) #[] "flag" rfl
      rfl rfl (inside_flag true _ (Nat.zero_le 5)) hflag returnsNull host ⟨0⟩).1 _ rfl
    obtain ⟨more, hcall⟩ := (h.calls (by decide) [] (by simp)).returned
    exact ⟨_, _, h.answer, (hcall .null _ rfl).trans
      ((congrArg _ (pop_of_missing _ (.inr rfl) _)).trans (concluded_of_kept rfl (.ok _) more))⟩
  · have h := (@defineFunction_of_unwatched Unit (flagContext false) (flagState false) #[] "other"
      rfl rfl rfl (inside_flag false _ (Nat.zero_le 5)) hother returnsNull host ⟨0⟩).2 rfl
    obtain ⟨e, objects, hanswer, -⟩ := h.unchanged (inside_flag false _ (Nat.le_refl 5)) (.inl rfl)
    exact ⟨e, _, hanswer⟩

end Context

end ScriptHost
