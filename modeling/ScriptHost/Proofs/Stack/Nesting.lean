import ScriptHost.Proofs.Stack.Logic

/-!
# Host functions called under a run

A run of the machine calls host functions, these work on stacks of their own and may start further
runs, and so on.  `Under body depth x s depth' c` says that the call `c` is made in the course of
the run of `x` from `s`, at whatever nesting; `depth'` is how much deeper calls may nest below it.

A call *breaks* with a payload if its function leaves its own stack poisoned, fails for good, or
panics.  Neither script nor a primitive can stop what follows; of any other call the run goes on
with the answer.

* `Act.CallsThen`: a call, with what is left of the run, and `CallsThen.drive_eq`: the run goes on
  with the answer;
* `NativeCall.Breaks.runNative`: a call that breaks ends in a panic with that payload;
* `Under.panicked`: **so does the program that it was made under.**
-/

namespace ScriptHost

variable {M : Machine} {κ ω ε ε' α β : Type}

/-- A call of a host function, with the world in which it is made. -/
structure NativeCall (M : Machine) (κ ω : Type) where
  function : κ
  this : ScriptValue
  args : List ScriptValue
  world : World M κ ω

/-- The stack on which the function starts: the receiver and the arguments. -/
def NativeCall.entry (c : NativeCall M κ ω) : Session M κ ω :=
  ⟨c.world, (c.this :: c.args).toArray, none⟩

/-- How the call breaks: the function leaves its stack poisoned, fails for good, or panics. -/
inductive NativeCall.Breaks (body : κ → Stacked M κ ω EngineError Bool) (handler : Handler M κ ω)
    (c : NativeCall M κ ω) : Payload → Prop
  | poisoned {returnsTop : Bool} {s : Session M κ ω} {reason : String}
      (h : body c.function handler c.entry = .ok returnsTop s) (hs : s.poison = some reason) :
      Breaks body handler c (.abort reason)
  | poisonedFailure {e : EngineError} {s : Session M κ ω} {reason : String}
      (h : body c.function handler c.entry = .error e s) (hs : s.poison = some reason) :
      Breaks body handler c (.abort reason)
  | fatal {s : Session M κ ω} {reason : String}
      (h : body c.function handler c.entry = .error (.fatal reason) s) (hs : s.poison = none) :
      Breaks body handler c (.abort reason)
  | panicked {payload : Payload} {w : World M κ ω}
      (h : body c.function handler c.entry = .panicked payload w) : Breaks body handler c payload

theorem NativeCall.Breaks.runNative {body : κ → Stacked M κ ω EngineError Bool}
    {handler : Handler M κ ω} {c : NativeCall M κ ω} {payload : Payload}
    (h : c.Breaks body handler payload) :
    ∃ w, runNative body handler c.function c.this c.args c.world = .panicked payload w := by
  have hrun : ScriptHost.runNative body handler c.function c.this c.args c.world =
      .ofOutcome (body c.function handler c.entry) := rfl
  rw [hrun]
  cases h with
  | poisoned h hs => exact ⟨_, by simp only [h, NativeResult.ofOutcome, hs]; rfl⟩
  | poisonedFailure h hs => exact ⟨_, by simp only [h, NativeResult.ofOutcome, hs]; rfl⟩
  | fatal h hs => exact ⟨_, by simp only [h, NativeResult.ofOutcome, hs]; rfl⟩
  | panicked h => exact ⟨_, by simp only [h, NativeResult.ofOutcome]; rfl⟩

/-! ## The calls of one run -/

/-- The run, its calls answered by `handler`, makes the call `c`, and `next` is what is left of it
then. -/
inductive Act.CallsThen (handler : Handler M κ ω) :
    Act M.State α → World M κ ω → NativeCall M κ ω →
      (M.State → Except ScriptValue ScriptValue → Act M.State α) → Prop
  | here {s : M.State} {function : NativeId} {this : ScriptValue} {args : List ScriptValue}
      {next : M.State → Except ScriptValue ScriptValue → Act M.State α} {w : World M κ ω} {k : κ}
      (hk : w.natives[function.index]? = some k) :
      CallsThen handler (.native s function this args next) w
        ⟨k, this, args, { w with machine := s }⟩ next
  /-- Behind a call that was answered. -/
  | later {s : M.State} {function : NativeId} {this : ScriptValue} {args : List ScriptValue}
      {next rest : M.State → Except ScriptValue ScriptValue → Act M.State α} {w w' : World M κ ω}
      {k : κ} {reply : Except ScriptValue ScriptValue} {c : NativeCall M κ ω}
      (hk : w.natives[function.index]? = some k)
      (hr : handler k this args { w with machine := s } = .ended reply w')
      (h : CallsThen handler (next w'.machine reply) w' c rest) :
      CallsThen handler (.native s function this args next) w c rest
  /-- Behind a call of a function that is not in the table. -/
  | missing {s : M.State} {function : NativeId} {this : ScriptValue} {args : List ScriptValue}
      {next rest : M.State → Except ScriptValue ScriptValue → Act M.State α} {w : World M κ ω}
      {c : NativeCall M κ ω} (hk : w.natives[function.index]? = none)
      (h : CallsThen handler (next s (.ok .undefined)) w c rest) :
      CallsThen handler (.native s function this args next) w c rest

/-- The run, its calls answered by `handler`, makes the call `c`. -/
def Act.Calls (handler : Handler M κ ω) (act : Act M.State α) (w : World M κ ω)
    (c : NativeCall M κ ω) : Prop := ∃ next, act.CallsThen handler w c next

/-- How a run of which `next` is left ends once its call has come out so. -/
def NativeResult.resume (handler : Handler M κ ω)
    (next : M.State → Except ScriptValue ScriptValue → Act M.State α) :
    NativeResult M κ ω → Driven M κ ω α
  | .ended reply w => (next w.machine reply).drive handler w
  | .panicked payload w => .panicked payload w
  | .exhausted => .exhausted

section

variable {handler : Handler M κ ω} {act : Act M.State α} {w w' : World M κ ω} {c : NativeCall M κ ω}
  {next : M.State → Except ScriptValue ScriptValue → Act M.State α}

theorem Act.CallsThen.drive_eq_resume (h : act.CallsThen handler w c next) :
    act.drive handler w = (handler c.function c.this c.args c.world).resume handler next := by
  induction h with
  | @here s _ this args _ w k hk =>
    simp only [Act.drive, hk]
    cases handler k this args { w with machine := s } <;> rfl
  | later hk hr _ ih => simp only [Act.drive, hk, hr, ih]
  | missing hk _ ih => simp only [Act.drive, hk, ih]

/-- **The run goes on with the answer**, be it a value that was returned or one that was thrown. -/
theorem Act.CallsThen.drive_eq {reply : Except ScriptValue ScriptValue}
    (h : act.CallsThen handler w c next)
    (hc : handler c.function c.this c.args c.world = .ended reply w') :
    act.drive handler w = (next w'.machine reply).drive handler w' := by
  rw [h.drive_eq_resume, hc]
  rfl

theorem Act.Calls.drive_panicked (h : act.Calls handler w c) {payload : Payload}
    (hc : handler c.function c.this c.args c.world = .panicked payload w') :
    act.drive handler w = .panicked payload w' := by
  obtain ⟨next, h⟩ := h
  rw [h.drive_eq_resume, hc]
  rfl

end

/-- The run of the program from the session makes the call `c`. -/
inductive Stacked.Calls (handler : Handler M κ ω) :
    {ε α : Type} → Stacked M κ ω ε α → Session M κ ω → NativeCall M κ ω → Prop
  | act {ε α : Type} {f : M.State → Act M.State α} {s : Session M κ ω} {c : NativeCall M κ ω}
      (h : (f s.world.machine).Calls handler s.world c) :
      Calls handler (Stacked.act f : Stacked M κ ω ε (Except Failure α)) s c
  | attempt {ε ε' α : Type} {x : Stacked M κ ω ε α} {s : Session M κ ω} {c : NativeCall M κ ω}
      (h : Calls handler x s c) :
      Calls handler (x.attempt : Stacked M κ ω ε' (Except ε α)) s c
  | mapError {ε ε' α : Type} {x : Stacked M κ ω ε α} {g : ε → ε'} {s : Session M κ ω}
      {c : NativeCall M κ ω} (h : Calls handler x s c) : Calls handler (x.mapError g) s c
  | first {ε α β : Type} {x : Stacked M κ ω ε α} {f : α → Stacked M κ ω ε β} {s : Session M κ ω}
      {c : NativeCall M κ ω} (h : Calls handler x s c) : Calls handler (x >>= f) s c
  | second {ε α β : Type} {x : Stacked M κ ω ε α} {f : α → Stacked M κ ω ε β} {a : α}
      {s s' : Session M κ ω} {c : NativeCall M κ ω} (hx : x handler s = .ok a s')
      (h : Calls handler (f a) s' c) : Calls handler (x >>= f) s c

/-- No program catches a panic of a host function. -/
theorem Stacked.Calls.panicked {handler : Handler M κ ω} {x : Stacked M κ ω ε α}
    {s : Session M κ ω} {c : NativeCall M κ ω} (h : x.Calls handler s c) {payload : Payload}
    {w : World M κ ω} (hc : handler c.function c.this c.args c.world = .panicked payload w) :
    x handler s = .panicked payload w := by
  induction h with
  | act h => simp only [Stacked.act, h.drive_panicked hc]
  | attempt _ ih => simp only [Stacked.attempt, ih hc]
  | mapError _ ih => simp only [Stacked.mapError, ih hc]
  | first _ ih =>
    show Stacked.bind _ _ _ _ = _
    simp only [Stacked.bind, ih hc]
  | second hx _ ih =>
    show Stacked.bind _ _ _ _ = _
    simp only [Stacked.bind, hx, ih hc]

/-! ## The calls at any nesting -/

/-- The call `c` is made in the course of the run of `x` from `s`, by the script that `x` runs or
under a host function that was called before. -/
inductive Under (body : κ → Stacked M κ ω EngineError Bool) :
    {ε α : Type} → (depth : Nat) → Stacked M κ ω ε α → Session M κ ω →
      (depth' : Nat) → NativeCall M κ ω → Prop
  | direct {ε α : Type} {depth : Nat} {x : Stacked M κ ω ε α} {s : Session M κ ω}
      {c : NativeCall M κ ω} (h : x.Calls (nestedHandler body (depth + 1)) s c) :
      Under body (depth + 1) x s depth c
  | nested {ε α : Type} {depth depth' : Nat} {x : Stacked M κ ω ε α} {s : Session M κ ω}
      {outer c : NativeCall M κ ω} (h : x.Calls (nestedHandler body (depth + 1)) s outer)
      (hc : Under body depth (body outer.function) outer.entry depth' c) :
      Under body (depth + 1) x s depth' c

/-- **A call that breaks, at whatever nesting, ends the program in a panic with its payload.** -/
theorem Under.panicked {body : κ → Stacked M κ ω EngineError Bool} {depth depth' : Nat}
    {x : Stacked M κ ω ε α} {s : Session M κ ω} {c : NativeCall M κ ω}
    (h : Under body depth x s depth' c) {payload : Payload}
    (hc : c.Breaks body (nestedHandler body depth') payload) :
    ∃ w, x (nestedHandler body depth) s = .panicked payload w := by
  induction h with
  | direct h =>
    obtain ⟨w, hw⟩ := hc.runNative
    exact ⟨w, h.panicked hw⟩
  | nested h _ ih =>
    -- The inner panic is a panic of the outer function, which breaks its own call.
    obtain ⟨w, hw⟩ := ih hc
    obtain ⟨w', hw'⟩ := (NativeCall.Breaks.panicked hw).runNative
    exact ⟨w', h.panicked hw'⟩

end ScriptHost
