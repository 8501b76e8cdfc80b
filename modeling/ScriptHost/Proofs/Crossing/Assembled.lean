import ScriptHost.Crossing.Call
import ScriptHost.Proofs.Stack.Poison

/-!
# How the programs of the crossing are put together

The programs of the crossing fail with errors of their own, `Error`, of which `Error.internal` alone
is fatal.  Each of these programs is assembled: it is put together from the primitives, and all that
a conversion does to the host's own state is to take sentinels (`HostState.Takes`).  The failures of
primitives are the only source of fatal errors, and none of them gets out unclassified.

* `readThrown_eq`, `Marshaller.readItems_succ`: two programs step by step;
* `assembled_check`: a primitive with its failure classified;
* `Marshaller.assembled_push`, `Marshaller.assembled_pop`: the two conversions;
* `assembled_invoke`: calls from script into the host.
-/

namespace ScriptHost

open Stack Stacked Crossing

variable {M : Machine} {δ ε α β γ : Type} {fatal : ε → Bool}
  {touches : HostState δ → HostState δ → Prop}

/-- One sentinel has been taken from the source. -/
def HostState.Takes (host host' : HostState δ) : Prop :=
  host' = { host with sentinels := host.sentinels.take.2 }

namespace Crossing

theorem assembled_ofExcept {result : Except ε α} (h : ∀ e, result = .error e → fatal e = false) :
    (Crossing.ofExcept result : Crossing M δ ε α).Assembled touches fatal := by
  cases result with
  | ok a => exact .pure a
  | error e => exact .fail (h e rfl)

theorem assembled_unclassified {x : Crossing M δ EngineError α}
    (hx : x.Assembled touches fun _ => true) :
    (x.mapError Error.ofEngineError).Assembled touches Error.isFatal :=
  .mapError (fun _ _ => rfl) hx

/-- Work is carried out, something is done behind it whether it failed or not, and then its error is
passed on. -/
theorem assembled_tidied {x : Crossing M δ ε α} {tidy : Crossing M δ ε γ}
    {f : γ → α → Crossing M δ ε β} (hx : x.Assembled touches fatal)
    (ht : tidy.Assembled touches fatal) (hf : ∀ c a, (f c a).Assembled touches fatal) :
    Assembled touches fatal (x.attempt >>= fun result =>
      tidy >>= fun c => Crossing.ofExcept result >>= f c : Crossing M δ ε β) := by
  refine .attempt hx (fun a => ?_) (fun e he => ?_) fun e => ?_
  · exact ht.bind fun c => (Assembled.pure a).bind (hf c)
  · exact ht.bind fun c => (Assembled.fail he).bind (hf c)
  · exact ht.keeping.bind fun c => (Assembled.fail rfl).bind fun a => (hf c a).keeping

/-! ## Thrown values -/

theorem assembled_textProp (index : Nat) (key : String) :
    (textProp index key : Crossing M δ ε (Option String)).Assembled touches fatal := by
  have hend (base : Nat) (text : Option (List UInt8)) : Assembled touches fatal
      (setDepth base >>= fun _ => pure (text.map Text.fromEngineTextLossy) :
        Crossing M δ ε (Option String)) :=
    (assembled_setDepth base).bind fun _ => .pure _
  unfold textProp
  refine assembled_depth.bind fun base => (assembled_getProp index _).attempting fun found => ?_
  cases found with
  | error e => exact (Assembled.pure none).bind (hend base)
  | ok found =>
    refine (assembled_slotType base).bind fun kind => ?_
    dsimp only
    split
    · exact (Assembled.pure none).bind (hend base)
    · exact (assembled_displayText base).bind (hend base)

end Crossing

/-- The text of a property of an object; other values have none. -/
def objectText (index : Nat) (kind : SlotType) (key : String) : Crossing M δ ε (Option String) :=
  if kind = .object ∨ kind = .array ∨ kind = .function then textProp index key else pure none

/-- The message of a thrown value: its own, or else the value as script would print it. -/
def messageText (index : Nat) : Option String → Crossing M δ ε String
  | some text => pure text
  | none => do
    match ← displayText index with
    | some text => pure (Text.fromEngineTextLossy text)
    | none => pure "unprintable thrown value"

/-- What is read of a thrown value, step by step. -/
theorem readThrown_eq (index : Nat) : (readThrown index : Crossing M δ ε Error) = (do
    let kind ← slotType index
    let name ← objectText index kind "name"
    let message ← objectText index kind "message"
    let trace ← objectText index kind "stack"
    let message ← messageText index message
    pure <| match name with
      | some "ReferenceError" => .reference message
      | some "TypeError" => .typeError message
      | some "SyntaxError" => .malformedSource message
      | name => .script (name.getD "Error") message trace) := by
  have hmessage (f : String → Crossing M δ ε Error) (message : Option String) :
      (match message with
        | some text => pure text >>= f
        | none => displayText index >>= fun shown => match shown with
          | some text => pure (Text.fromEngineTextLossy text) >>= f
          | none => pure "unprintable thrown value" >>= f) = messageText index message >>= f := by
    unfold messageText
    cases message with
    | some text => rfl
    | none =>
      rw [bind_assoc]
      refine congrArg (displayText index >>= ·) (funext fun shown => ?_)
      cases shown <;> rfl
  unfold readThrown objectText
  refine congrArg (slotType index >>= ·) (funext fun kind => ?_)
  dsimp only
  split
  · refine congrArg (textProp index "name" >>= ·) (funext fun name => ?_)
    refine congrArg (textProp index "message" >>= ·) (funext fun message => ?_)
    refine congrArg (textProp index "stack" >>= ·) (funext fun trace => ?_)
    exact hmessage _ message
  · exact hmessage _ none

namespace Crossing

theorem assembled_readThrown (index : Nat) :
    (readThrown index : Crossing M δ ε Error).Assembled touches fatal := by
  have htext (kind : SlotType) (key : String) :
      (objectText index kind key : Crossing M δ ε (Option String)).Assembled touches fatal := by
    unfold objectText
    split
    · exact assembled_textProp index key
    · exact .pure none
  have hmessage (text : Option String) :
      (messageText index text : Crossing M δ ε String).Assembled touches fatal := by
    cases text with
    | some text => exact .pure text
    | none =>
      refine (assembled_displayText index).bind fun shown => ?_
      cases shown with
      | some text => exact .pure _
      | none => exact .pure _
  rw [readThrown_eq]
  exact (assembled_slotType index).bind fun kind => (htext kind _).bind fun _ =>
    (htext kind _).bind fun message => (htext kind _).bind fun _ =>
    (hmessage message).bind fun _ => .pure _

/-- The error of a thrown value is never fatal, whatever the value calls itself. -/
theorem readThrown_not_fatal (index : Nat) :
    (readThrown index : Crossing M δ ε Error).Gives fun e => e.isFatal = false := by
  intro handler s
  rw [readThrown_eq]
  refine wp_bind_any fun kind s₁ => wp_bind_any fun name s₂ => wp_bind_any fun message s₃ =>
    wp_bind_any fun trace s₄ => wp_bind_any fun message s₅ => ?_
  rw [wp_pure]
  dsimp only
  split <;> rfl

theorem assembled_classify_thrown :
    (classify .thrown : Crossing M δ Error α).Assembled touches Error.isFatal := by
  unfold classify
  refine assembled_depth.bind fun n => ?_
  cases n with
  | zero => exact assembled_unclassified (assembled_poison _)
  | succ top =>
    exact .bindGiven (assembled_readThrown top) (readThrown_not_fatal top) fun e he =>
      (assembled_setDepth top).bind fun _ => .fail he

/-- **No failure gets out unclassified**: a thrown value becomes an error that is not fatal, and a
failure for good keeps its poison. -/
theorem assembled_check {x : Crossing M δ EngineError α}
    (hx : x.Assembled touches EngineError.isFatal) :
    (check x).Assembled touches Error.isFatal := by
  refine .attempt hx (fun a => .pure a) (fun e he => ?_) fun e => ?_
  · cases e with
    | thrown => exact assembled_classify_thrown
    | fatal reason => simp [EngineError.isFatal] at he
  · cases e with
    | thrown => exact assembled_classify_thrown.keeping
    | fatal reason => exact .fail rfl

end Crossing

/-! ## The two conversions -/

namespace Marshaller

variable (m : Marshaller)

mutual

theorem assembled_pushValue (level : Nat) (v : HostValue) :
    (m.pushValue level v : Crossing M δ Error Unit).Assembled touches Error.isFatal := by
  unfold pushValue
  split
  · exact .fail rfl
  · split
    · exact Stack.assembled_pushValue _
    · exact Stack.assembled_pushValue _
    · exact Stack.assembled_pushValue _
    · exact Stack.assembled_pushValue _
    · exact assembled_pushArray.bind fun array => assembled_pushItems level array _
    · exact assembled_pushObject.bind fun object => assembled_pushEntries level object _
    · exact assembled_pushNative _ _
    · exact .fail rfl

theorem assembled_pushItems (level array : Nat) (items : List HostValue) :
    (m.pushItems level array items : Crossing M δ Error Unit).Assembled touches Error.isFatal := by
  cases items with
  | nil => exact .pure _
  | cons item rest =>
    exact (assembled_pushValue (level + 1) item).bind fun _ =>
      (assembled_check (assembled_append array)).bind fun _ => assembled_pushItems level array rest

theorem assembled_pushEntries (level object : Nat) (entries : List (HostValue × HostValue)) :
    (m.pushEntries level object entries : Crossing M δ Error Unit).Assembled touches
      Error.isFatal := by
  match entries with
  | [] => exact .pure _
  | (key, item) :: rest =>
    unfold pushEntries
    split
    · exact (assembled_pushValue (level + 1) item).bind fun _ =>
        (assembled_check (assembled_putProp object _)).bind fun _ =>
        assembled_pushEntries level object rest
    · exact .fail rfl

end

theorem assembled_push (v : HostValue) :
    (m.push v : Crossing M δ Error Unit).Assembled HostState.Takes Error.isFatal := by
  refine assembled_depth.bind fun base => .attempt (m.assembled_pushValue 0 v) ?_ ?_ ?_
  · exact fun _ => .pure _
  · exact fun e he => (assembled_setDepth base).bind fun _ => .fail he
  · exact fun e => (assembled_setDepth base).bind fun _ => .fail rfl

theorem assembled_standIn :
    (m.standIn : Crossing M δ ε HostValue).Assembled HostState.Takes fatal := by
  unfold standIn
  split
  · exact .pure _
  · exact .withHost fun _ => rfl

theorem assembled_charge (budget count : Nat) :
    (Crossing.ofExcept (m.charge budget count) : Crossing M δ Error Nat).Assembled touches
      Error.isFatal := by
  refine assembled_ofExcept fun e he => ?_
  unfold charge at he
  split at he
  · cases he
  · cases he
    rfl

theorem assembled_hostText (bytes : List UInt8) :
    (Crossing.ofExcept (hostText bytes) : Crossing M δ Error String).Assembled touches
      Error.isFatal := by
  refine assembled_ofExcept fun e he => ?_
  unfold hostText at he
  cases hb : Text.fromEngineText bytes with
  | ok text => rw [hb] at he; cases he
  | error encoding => rw [hb] at he; cases he; rfl

/-- The items are read one by one. -/
theorem readItems_succ (reader : Reader M δ) (array count next budget : Nat)
    (done : List HostValue) :
    readItems reader array (count + 1) next budget done = (do
      let base ← depth
      check (getIndex array next)
      let item ← (reader base budget).attempt
      setDepth base
      let read ← Crossing.ofExcept item
      readItems reader array count (next + 1) read.2 (read.1 :: done)) := by
  let one : Crossing M δ Error (HostValue × Nat) := do
    let base ← depth
    check (getIndex array next)
    let item ← (reader base budget).attempt
    setDepth base
    Crossing.ofExcept item
  have hone : readItems reader array (count + 1) next budget done = one >>= fun read =>
      readItems reader array count (next + 1) read.2 (read.1 :: done) := by
    funext handler s
    show _ = Stacked.bind one _ handler s
    unfold Stacked.bind
    rw [readItems]
    dsimp only [one]
    split <;> next h => rw [h]
  rw [hone]
  simp only [one, bind_assoc]

theorem assembled_readItems {reader : Reader M δ}
    (hreader : ∀ slot budget, (reader slot budget).Assembled touches Error.isFatal)
    (array count next budget : Nat) (done : List HostValue) :
    (readItems reader array count next budget done).Assembled touches Error.isFatal := by
  induction count generalizing next budget done with
  | zero => exact .pure _
  | succ count ih =>
    rw [readItems_succ]
    refine assembled_depth.bind fun base => ?_
    refine (assembled_check (assembled_getIndex array next)).bind fun _ => ?_
    exact assembled_tidied (hreader base budget) (assembled_setDepth base) fun _ _ => ih _ _ _

theorem assembled_readEntries {reader : Reader M δ}
    (hreader : ∀ slot budget, (reader slot budget).Assembled touches Error.isFatal) (object : Nat)
    (keys : List (List UInt8)) (budget : Nat) (done : List (HostValue × HostValue)) :
    (readEntries reader object keys budget done).Assembled touches Error.isFatal := by
  induction keys generalizing budget done with
  | nil => exact .pure _
  | cons key rest ih =>
    unfold readEntries
    refine assembled_depth.bind fun base => ?_
    refine (assembled_check (assembled_getProp object key)).bind fun _ => ?_
    refine (assembled_slotType base).bind fun kind => ?_
    split
    · exact (assembled_setDepth base).bind fun _ => ih _ _
    · have hname : Assembled touches Error.isFatal (setDepth base >>= fun _ =>
          Crossing.ofExcept (hostText key) : Crossing M δ Error String) :=
        (assembled_setDepth base).bind fun _ => assembled_hostText key
      have h := assembled_tidied (hreader base budget) hname fun name item =>
        ih item.2 ((.string name, item.1) :: done)
      simpa only [bind_assoc] using h

theorem assembled_read (levels slot budget : Nat) :
    (m.read levels slot budget : Crossing M δ Error (HostValue × Nat)).Assembled HostState.Takes
      Error.isFatal := by
  induction levels generalizing slot budget with
  | zero => exact .fail rfl
  | succ levels ih =>
    unfold read
    refine (assembled_slotType slot).bind fun kind => ?_
    split
    · exact assembled_unclassified (assembled_poison _)
    · exact .pure _
    · exact .pure _
    · exact (Assembled.read _).bind fun _ => .pure _
    · exact (Assembled.read _).bind fun _ => .pure _
    · exact (Assembled.read _).bind fun _ => (assembled_hostText _).bind fun _ => .pure _
    · exact (assembled_check (assembled_arrayLength slot)).bind fun length =>
        (m.assembled_charge budget length).bind fun budget =>
        (assembled_readItems ih slot length 0 budget []).bind fun _ => .pure _
    · exact (assembled_check (assembled_ownKeys slot)).bind fun keys =>
        (m.assembled_charge budget _).bind fun budget =>
        (assembled_readEntries ih slot keys budget []).bind fun _ => .pure _
    · exact m.assembled_standIn.bind fun _ => .pure _
    · exact m.assembled_standIn.bind fun _ => .pure _

theorem assembled_pop :
    (m.pop : Crossing M δ Error HostValue).Assembled HostState.Takes Error.isFatal := by
  unfold pop
  refine assembled_depth.bind fun n => ?_
  cases n with
  | zero => exact assembled_unclassified (assembled_poison _)
  | succ top =>
    exact assembled_tidied (m.assembled_read (m.maxDepth + 1) top m.maxElements)
      (assembled_setDepth top) fun _ _ => .pure _

end Marshaller

/-! ## Calls from script into the host -/

namespace Crossing

theorem assembled_readArguments (m : Marshaller) (count next : Nat) :
    (readArguments m count next : Crossing M δ EngineError _).Assembled HostState.Takes
      EngineError.isFatal := by
  induction count generalizing next with
  | zero => exact .pure _
  | succ count ih =>
    refine (assembled_dup next).bind fun _ => m.assembled_pop.attempting fun arg => ?_
    cases arg with
    | error e => exact .pure _
    | ok v =>
      refine (ih (next + 1)).bind fun rest => ?_
      cases rest with
      | error e => exact .pure _
      | ok vs => exact .pure _

theorem assembled_readThis (m : Marshaller) :
    (readThis m : Crossing M δ Error HostValue).Assembled HostState.Takes Error.isFatal :=
  (assembled_unclassified (assembled_dup 0)).bind fun _ => m.assembled_pop

/-- The host function may do anything to the host's own state. -/
theorem assembled_carryOut (m : Marshaller) (run : HostRun (HostState δ)) :
    (carryOut m run : Crossing M δ EngineError HostResult).Assembled (fun _ _ => True)
      EngineError.isFatal := by
  have hgiven (host : HostState δ) : Assembled (fun _ _ => True) EngineError.isFatal
      (withHost fun _ => ((), host) : Crossing M δ EngineError Unit) := .withHost fun _ => trivial
  induction run with
  | returned v host => exact (hgiven host).bind fun _ => .pure _
  | failed failure host => exact (hgiven host).bind fun _ => .pure _
  | panicked payload host => exact (hgiven host).bind fun _ => .panic payload
  | askThis host next ih =>
    refine (hgiven host).bind fun _ => (assembled_readThis m).freely.attempting fun this => ?_
    exact (Assembled.read _).bind fun host => ih this host

theorem assembled_throwInto (kind : ErrorKind) (e : Error) :
    (throwInto kind e : Crossing M δ EngineError Bool).Assembled touches EngineError.isFatal :=
  .unlessPoisoned _ ((assembled_pushError _ _).bind fun _ => .fail rfl)

/-- **A host function that fails for good has poisoned its stack.** -/
theorem assembled_invoke (functions : HostFunctions δ) (bound : BoundFunction) :
    (invoke functions bound : Crossing M δ EngineError Bool).Assembled (fun _ _ => True)
      EngineError.isFatal := by
  unfold invoke
  refine assembled_depth.bind fun n => (assembled_readArguments _ _ 1).freely.bind fun args => ?_
  cases args with
  | error e => exact assembled_throwInto _ e
  | ok args =>
    refine (Assembled.read _).bind fun host => (assembled_carryOut _ _).bind fun result => ?_
    cases result with
    | returned v =>
      refine (bound.marshaller.assembled_push v).freely.attempting fun pushed => ?_
      cases pushed with
      | ok _ => exact .pure _
      | error e => exact assembled_throwInto _ e
    | failed failure =>
      dsimp only
      split
      · exact assembled_throwInto _ _
      · exact (assembled_pushError _ _).bind fun _ => .fail rfl

end Crossing

end ScriptHost
