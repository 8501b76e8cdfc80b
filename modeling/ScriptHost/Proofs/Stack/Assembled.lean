import ScriptHost.Proofs.Machine.Trust
import ScriptHost.Proofs.Stack.Total
import ScriptHost.Stack.Primitive

/-!
# How programs are put together

`x.Assembled touches fatal` says how the program `x` is put together: from steps that look at the
session, change it or give it up, and from runs of the machine.  On the way the reason of a poisoned
stack is kept, the host's own state changes only as `touches` says, and an error is called `fatal`
only where the stack is poisoned.  What can be said of all steps can be said of all such programs,
so that the text of a program is followed here and nowhere else.

* closure: `Assembled.bind`, `Assembled.attempting`, `Assembled.mono`;
* `Machine.Returns`, `Assembled.halts`: **such a program comes to an end if the runs of the machine
  do**, and `ends_of_wp` makes its partial correctness total;
* every primitive is assembled: `assembled_append`, `assembled_callMethod`, …
-/

namespace ScriptHost

variable {M : Machine} {κ ω ε ε' α β : Type}

/-- The reason for which a stack is poisoned is kept. -/
def Session.Retains (s s' : Session M κ ω) : Prop :=
  ∀ reason, s.poison = some reason → s'.poison = some reason

theorem Session.Retains.of_eq {s s' : Session M κ ω} (h : s'.poison = s.poison) : s.Retains s' :=
  fun _ hs => h.trans hs

/-- Every run of the machine comes to an end, its calls answered by the handler. -/
def Machine.Returns (M : Machine) (handler : Handler M κ ω) : Prop :=
  ∀ {α : Type} {f : M.State → Act M.State α}, M.IsRun f → ∀ w : World M κ ω,
    (f w.machine).drive handler w ≠ .exhausted

namespace Stacked

/-- All that the program can give satisfies `P`. -/
def Gives (x : Stacked M κ ω ε α) (P : α → Prop) : Prop :=
  ∀ handler s, x.wp handler ⟨fun a _ => P a, fun _ _ => True, fun _ _ => True⟩ s

/-- The program is put together from steps on the session and runs of the machine. -/
inductive Assembled (touches : ω → ω → Prop) :
    {ε α : Type} → (ε → Bool) → Stacked M κ ω ε α → Prop
  | pure {ε α : Type} {fatal : ε → Bool} (a : α) :
    Assembled touches fatal (pure a : Stacked M κ ω ε α)
  | fail {ε α : Type} {fatal : ε → Bool} {e : ε} (he : fatal e = false) :
    Assembled touches fatal (fail e : Stacked M κ ω ε α)
  /-- The stack is poisoned, and then any error will do. -/
  | abort {ε α : Type} {fatal : ε → Bool} {f : Session M κ ω → Session M κ ω} (e : ε)
    (hf : ∀ s : Session M κ ω, s.Retains (f s)) (hpoison : ∀ s, (f s).poison.isSome = true)
    (hhost : ∀ s, (f s).world.host = s.world.host) :
    Assembled touches fatal (update f >>= fun _ => fail e : Stacked M κ ω ε α)
  /-- The stack turns out to be poisoned already. -/
  | unlessPoisoned {ε α : Type} {fatal : ε → Bool} {x : Stacked M κ ω ε α} (e : ε)
    (hx : Assembled touches fatal x) :
    Assembled touches fatal (read (fun s => s.poison.isSome) >>= fun poisoned =>
      if poisoned then fail e else x : Stacked M κ ω ε α)
  | panic {ε α : Type} {fatal : ε → Bool} (payload : Payload) :
    Assembled touches fatal (panic payload : Stacked M κ ω ε α)
  | read {ε α : Type} {fatal : ε → Bool} (f : Session M κ ω → α) :
    Assembled touches fatal (read f : Stacked M κ ω ε α)
  | update {ε : Type} {fatal : ε → Bool} {f : Session M κ ω → Session M κ ω}
    (hf : ∀ s : Session M κ ω, s.Retains (f s)) (hhost : ∀ s, (f s).world.host = s.world.host) :
    Assembled touches fatal (update f : Stacked M κ ω ε Unit)
  | withHost {ε α : Type} {fatal : ε → Bool} {f : ω → α × ω}
    (hf : ∀ host, touches host (f host).2) :
    Assembled touches fatal (withHost f : Stacked M κ ω ε α)
  | make {ε α : Type} {fatal : ε → Bool} (f : M.State → α × M.State) :
    Assembled touches fatal (make f : Stacked M κ ω ε α)
  | act {ε α : Type} {fatal : ε → Bool} {f : M.State → Act M.State α} (hf : M.IsRun f) :
    Assembled touches fatal (act f : Stacked M κ ω ε (Except Failure α))
  | mapError {ε ε' α : Type} {fatal : ε → Bool} {fatal' : ε' → Bool} {x : Stacked M κ ω ε α}
    {g : ε → ε'} (hg : ∀ e, fatal' (g e) = true → fatal e = true) (hx : Assembled touches fatal x) :
    Assembled touches fatal' (x.mapError g)
  /-- A caught error that was fatal has left the stack poisoned, so that what follows may call its
  own errors anything. -/
  | attempt {ε ε' α β : Type} {fatal : ε → Bool} {fatal' : ε' → Bool} {x : Stacked M κ ω ε α}
    {f : Except ε α → Stacked M κ ω ε' β} (hx : Assembled touches fatal x)
    (hok : ∀ a, Assembled touches fatal' (f (.ok a)))
    (herror : ∀ e, fatal e = false → Assembled touches fatal' (f (.error e)))
    (hkeeps : ∀ e, Assembled touches (fun _ => false) (f (.error e))) :
    Assembled touches fatal' (x.attempt >>= f)
  /-- What follows has only to deal with what the first half can give. -/
  | bindGiven {ε α β : Type} {fatal : ε → Bool} {x : Stacked M κ ω ε α} {f : α → Stacked M κ ω ε β}
    {P : α → Prop} (hx : Assembled touches fatal x) (hgives : x.Gives P)
    (hf : ∀ a, P a → Assembled touches fatal (f a)) : Assembled touches fatal (x >>= f)

variable {touches touches' : ω → ω → Prop} {fatal : ε → Bool} {fatal' : ε' → Bool}

/-! ## Closure -/

theorem gives_trivial (x : Stacked M κ ω ε α) : x.Gives fun _ => True := by
  intro handler s
  unfold wp
  cases x handler s <;> trivial

theorem Assembled.bind {x : Stacked M κ ω ε α} {f : α → Stacked M κ ω ε β}
    (hx : x.Assembled touches fatal) (hf : ∀ a, (f a).Assembled touches fatal) :
    (x >>= f).Assembled touches fatal :=
  .bindGiven hx (gives_trivial x) fun a _ => hf a

/-- More may be done to the host's state, and fewer errors be called fatal. -/
theorem Assembled.mono {x : Stacked M κ ω ε α} {fatal' : ε → Bool} (hx : x.Assembled touches fatal)
    (ht : ∀ host host', touches host host' → touches' host host')
    (hfatal : ∀ e, fatal' e = true → fatal e = true) : x.Assembled touches' fatal' := by
  induction hx with
  | pure a => exact .pure a
  | @fail _ _ _ e he =>
    refine .fail ?_
    cases h : fatal' e with
    | false => rfl
    | true => exact (hfatal e h).symm.trans he
  | abort e hf hpoison hhost => exact .abort e hf hpoison hhost
  | unlessPoisoned e _ ih => exact .unlessPoisoned e (ih hfatal)
  | panic payload => exact .panic payload
  | read f => exact .read f
  | update hf hhost => exact .update hf hhost
  | withHost hf => exact .withHost fun host => ht _ _ (hf host)
  | make f => exact .make f
  | act hf => exact .act hf
  | mapError hg _ ih => exact .mapError (fun e h => hg e (hfatal _ h)) (ih fun _ h => h)
  | attempt _ _ _ _ ihx ihok iherror ihkeeps =>
    exact .attempt (ihx fun _ h => h) (fun a => ihok a hfatal) (fun e he => iherror e he hfatal)
      fun e => ihkeeps e fun _ h => h
  | bindGiven _ hgives _ ihx ihf => exact .bindGiven (ihx hfatal) hgives fun a ha => ihf a ha hfatal

theorem Assembled.keeping {x : Stacked M κ ω ε α} (hx : x.Assembled touches fatal) :
    x.Assembled touches fun _ => false := hx.mono (fun _ _ h => h) nofun

theorem Assembled.freely {x : Stacked M κ ω ε α} (hx : x.Assembled touches fatal) :
    x.Assembled (fun _ _ => True) fatal := hx.mono (fun _ _ _ => trivial) fun _ h => h

theorem Assembled.attempting {x : Stacked M κ ω ε α} {f : Except ε α → Stacked M κ ω ε' β}
    (hx : x.Assembled touches fatal) (hf : ∀ result, (f result).Assembled touches fatal') :
    (x.attempt >>= f).Assembled touches fatal' :=
  .attempt hx (fun a => hf (.ok a)) (fun e _ => hf (.error e)) fun e => (hf (.error e)).keeping

/-! ## The end of a run -/

variable {handler : Handler M κ ω}

/-- **An assembled program comes to an end** if the runs of the machine do. -/
theorem Assembled.halts (hr : M.Returns handler) {x : Stacked M κ ω ε α}
    (hx : x.Assembled touches fatal) (s : Session M κ ω) : x handler s ≠ .exhausted := by
  induction hx generalizing s with
  | pure | fail | abort | panic | read | update | withHost | make => exact nofun
  | @unlessPoisoned _ _ _ x e _ ih =>
    rw [bind_apply, Stacked.read]
    dsimp only
    split
    · exact nofun
    · exact ih s
  | @act _ _ _ f hf =>
    intro h
    unfold Stacked.act at h
    cases hrun : (f s.world.machine).drive handler s.world with
    | ended | panicked => rw [hrun] at h; cases h
    | exhausted => exact hr hf s.world hrun
  | @mapError _ _ _ _ _ x g _ _ ih =>
    intro h
    unfold Stacked.mapError at h
    cases hrun : x handler s with
    | ok | error | panicked => rw [hrun] at h; cases h
    | exhausted => exact ih s hrun
  | @attempt _ _ _ _ _ _ x f _ _ _ _ ihx ihok _ ihkeeps =>
    intro h
    rw [bind_apply, Stacked.attempt] at h
    cases hrun : x handler s with
    | ok a t => rw [hrun] at h; exact ihok a t h
    | error e t => rw [hrun] at h; exact ihkeeps e t h
    | panicked => rw [hrun] at h; cases h
    | exhausted => exact ihx s hrun
  | @bindGiven _ _ _ _ x f P _ hgives _ ihx ihf =>
    intro h
    rw [bind_apply] at h
    cases hrun : x handler s with
    | ok a t => rw [hrun] at h; exact ihf a (ok_of_wp (hgives handler s) hrun) t h
    | error | panicked => rw [hrun] at h; cases h
    | exhausted => exact ihx s hrun

/-- What is allowed at the end holds there, if there is an end without a panic. -/
theorem ends_of_wp {x : Stacked M κ ω ε α} {s : Session M κ ω} {ok : α → Session M κ ω → Prop}
    {error : ε → Session M κ ω → Prop} (h : x.wp handler ⟨ok, error, fun _ _ => False⟩ s)
    (hend : x handler s ≠ .exhausted) : x.ends handler ok error s := by
  unfold wp at h
  unfold ends
  cases hx : x handler s with
  | ok a s' => rw [hx] at h; exact h
  | error e s' => rw [hx] at h; exact h
  | panicked payload w => rw [hx] at h; exact h
  | exhausted => exact hend hx

end Stacked

/-! ## The primitives -/

namespace Stack

open Stacked

variable {touches : ω → ω → Prop} {fatal : ε → Bool} {fatal' : EngineError → Bool}

/-! Where a primitive fails only for good (`poison`, `slot`, `takeTop`, `pop`, `dup`), all its
errors come with a poisoned stack, whichever of them are called fatal. -/

theorem assembled_poison (reason : String) :
    (poison reason : Stacked M κ ω EngineError α).Assembled touches fatal' :=
  .abort (f := fun s => { s with poison := some (s.poison.getD reason) }) _
    (fun s r hr => by simp [hr]) (fun _ => rfl) fun _ => rfl

theorem assembled_depth : (depth : Stacked M κ ω ε Nat).Assembled touches fatal := .read _

/-- Raising the depth poisons the stack, unless that is poisoned already. -/
theorem assembled_setDepth (n : Nat) :
    (setDepth n : Stacked M κ ω ε Unit).Assembled touches fatal := by
  refine .update (fun s reason hs => ?_) fun s => ?_
  · rw [if_pos (by rw [hs]; rfl)]
    exact hs
  · split
    · rfl
    · split <;> rfl

theorem assembled_pushValue (v : ScriptValue) :
    (pushValue v : Stacked M κ ω ε Unit).Assembled touches fatal :=
  .update (fun _ => .of_eq rfl) fun _ => rfl

theorem assembled_slotType (index : Nat) :
    (slotType index : Stacked M κ ω ε SlotType).Assembled touches fatal := .read _

theorem assembled_thrownValue (failure : Failure) :
    (thrownValue failure : Stacked M κ ω ε ScriptValue).Assembled touches fatal := by
  unfold thrownValue
  cases failure.cause with
  | value v => exact .pure v
  | limit message => exact .bind (.make _) fun _ => .pure _

theorem assembled_recordTrace (failure : Failure) (ref : Ref) :
    (recordTrace failure ref : Stacked M κ ω ε Unit).Assembled touches fatal := by
  unfold recordTrace
  refine .bind (.act (.hasOwn _ _)) fun has => ?_
  split
  · exact .bind (.read _) fun _ => .bind (.act (.defineHidden _ _ _)) fun _ => .pure _
  · exact .pure _

/-- A failure of the machine is thrown, which is not fatal. -/
theorem assembled_raise (failure : Failure) :
    (raise failure : Stacked M κ ω EngineError α).Assembled touches EngineError.isFatal := by
  have hend (v : ScriptValue) : Assembled touches EngineError.isFatal
      (pushValue v >>= fun _ => fail .thrown : Stacked M κ ω EngineError α) :=
    .bind (assembled_pushValue v) fun _ => .fail rfl
  unfold raise
  refine .bind (assembled_thrownValue failure) fun v => ?_
  dsimp only
  split
  · refine .bind (.read _) fun isError => ?_
    split
    · exact .bind (assembled_recordTrace failure _) fun _ => hend _
    · exact hend _
  · exact hend _

theorem assembled_perform {f : M.State → Act M.State α} (hf : M.IsRun f) :
    (perform f : Stacked M κ ω EngineError α).Assembled touches EngineError.isFatal := by
  unfold perform
  refine .bind (.act hf) fun result => ?_
  cases result with
  | ok a => exact .pure a
  | error failure => exact assembled_raise failure

theorem assembled_slot (index : Nat) :
    (slot index : Stacked M κ ω EngineError ScriptValue).Assembled touches fatal' := by
  unfold slot
  refine .bind (.read _) fun v? => ?_
  cases v? with
  | some v => exact .pure v
  | none => exact .bind assembled_depth fun _ => assembled_poison _

theorem assembled_objectAt (index : Nat) :
    (objectAt index : Stacked M κ ω EngineError Ref).Assembled touches fatal' := by
  unfold objectAt
  refine .bind (assembled_slot index) fun v => ?_
  split
  · exact .pure _
  · exact assembled_poison _

theorem assembled_arrayAt (index : Nat) :
    (arrayAt index : Stacked M κ ω EngineError Ref).Assembled touches fatal' := by
  unfold arrayAt
  refine .bind (assembled_objectAt index) fun ref => .bind (.read _) fun shape => ?_
  cases shape with
  | array => exact .pure ref
  | plain => exact assembled_poison _
  | function => exact assembled_poison _

theorem assembled_takeTop :
    (takeTop : Stacked M κ ω EngineError ScriptValue).Assembled touches fatal' := by
  unfold takeTop
  refine .bind (.read _) fun v? => ?_
  cases v? with
  | some v => exact .bind (.update (fun _ => .of_eq rfl) fun _ => rfl) fun _ => .pure v
  | none => exact assembled_poison _

theorem assembled_pop : (pop : Stacked M κ ω EngineError Unit).Assembled touches fatal' :=
  .bind assembled_takeTop fun _ => .pure _

theorem assembled_dup (index : Nat) :
    (dup index : Stacked M κ ω EngineError Unit).Assembled touches fatal' :=
  .bind (assembled_slot index) assembled_pushValue

theorem assembled_pushGlobal : (pushGlobal : Stacked M κ ω ε Unit).Assembled touches fatal :=
  .bind (.read _) fun _ => assembled_pushValue _

theorem assembled_pushArray : (pushArray : Stacked M κ ω ε Nat).Assembled touches fatal :=
  .bind assembled_depth fun _ => .bind (.make _) fun _ => .bind (assembled_pushValue _) fun _ =>
    .pure _

theorem assembled_pushObject : (pushObject : Stacked M κ ω ε Nat).Assembled touches fatal :=
  .bind assembled_depth fun _ => .bind (.make _) fun _ => .bind (assembled_pushValue _) fun _ =>
    .pure _

theorem assembled_pushError (kind : ErrorKind) (message : String) :
    (pushError kind message : Stacked M κ ω ε Unit).Assembled touches fatal :=
  .bind (.make _) fun _ => assembled_pushValue _

theorem assembled_pushNative (name : String) (body : κ) :
    (pushNative name body : Stacked M κ ω ε Unit).Assembled touches fatal :=
  .bind (.read _) fun _ => .bind (.update (fun _ => .of_eq rfl) fun _ => rfl) fun _ =>
    .bind (.make _) fun _ => assembled_pushValue _

theorem assembled_append (index : Nat) :
    (append index : Stacked M κ ω EngineError Unit).Assembled touches EngineError.isFatal :=
  .bind (assembled_arrayAt index) fun _ => .bind assembled_takeTop fun _ =>
    assembled_perform (.append _ _)

theorem assembled_putProp (index : Nat) (key : List UInt8) :
    (putProp index key : Stacked M κ ω EngineError Unit).Assembled touches EngineError.isFatal :=
  .bind (assembled_objectAt index) fun _ => .bind assembled_takeTop fun _ =>
    assembled_perform (.define _ _ _)

theorem assembled_putGlobal (name : List UInt8) :
    (putGlobal name : Stacked M κ ω EngineError Unit).Assembled touches EngineError.isFatal :=
  .bind assembled_takeTop fun _ => assembled_perform (.setGlobal _ _)

theorem assembled_displayText (index : Nat) :
    (displayText index : Stacked M κ ω ε (Option (List UInt8))).Assembled touches fatal := by
  unfold displayText
  refine .bind (.read _) fun v? => ?_
  cases v? with
  | none => exact .pure _
  | some v =>
    refine .bind (.act (.toText v)) fun result => ?_
    cases result with
    | ok text => exact .pure _
    | error failure => exact .pure _

theorem assembled_arrayLength (index : Nat) :
    (arrayLength index : Stacked M κ ω EngineError Nat).Assembled touches EngineError.isFatal :=
  .bind (assembled_arrayAt index) fun _ => assembled_perform (.length _)

theorem assembled_getIndex (index element : Nat) :
    (getIndex index element : Stacked M κ ω EngineError Unit).Assembled touches
      EngineError.isFatal :=
  .bind (assembled_objectAt index) fun _ => .bind (assembled_perform (.element _ _))
    assembled_pushValue

theorem assembled_enumerableKeys (ref : Ref) (keys : List Units) :
    (enumerableKeys ref keys : Stacked M κ ω EngineError (List (List UInt8))).Assembled touches
      EngineError.isFatal := by
  induction keys with
  | nil => exact .pure _
  | cons key rest ih =>
    exact .bind (assembled_perform (.isEnumerable _ _)) fun _ => .bind ih fun _ => .pure _

theorem assembled_ownKeys (index : Nat) :
    (ownKeys index : Stacked M κ ω EngineError (List (List UInt8))).Assembled touches
      EngineError.isFatal :=
  .bind (assembled_objectAt index) fun ref => .bind (assembled_perform (.keys ref))
    (assembled_enumerableKeys ref)

theorem assembled_getProp (index : Nat) (key : List UInt8) :
    (getProp index key : Stacked M κ ω EngineError Bool).Assembled touches EngineError.isFatal :=
  .bind (assembled_slot index) fun _ => .bind (assembled_perform (.toObject _)) fun _ =>
    .bind (assembled_perform (.has _ _)) fun _ => .bind (assembled_perform (.get _ _)) fun _ =>
    .bind (assembled_pushValue _) fun _ => .pure _

theorem assembled_runSource (source : List UInt8) (filename : String) :
    (runSource source filename : Stacked M κ ω EngineError Unit).Assembled touches
      EngineError.isFatal :=
  .bind (assembled_perform (.run _ _)) assembled_pushValue

theorem assembled_callMethod (count : Nat) :
    (callMethod count : Stacked M κ ω EngineError Unit).Assembled touches EngineError.isFatal := by
  unfold callMethod
  refine .bind assembled_depth fun n => ?_
  dsimp only
  split
  · exact assembled_poison _
  · refine .bind (.read _) fun args => .bind (.update (fun _ => .of_eq rfl) fun _ => rfl) fun _ =>
      ?_
    refine .bind assembled_takeTop fun this => .bind assembled_takeTop fun function => ?_
    refine .bind (.read _) fun callee? => ?_
    cases callee? with
    | none => exact .bind (assembled_pushError _ _) fun _ => .fail rfl
    | some ref => exact .bind (assembled_perform (.call _ _ _)) assembled_pushValue

end Stack

end ScriptHost
