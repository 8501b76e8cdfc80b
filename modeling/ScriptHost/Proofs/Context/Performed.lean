import ScriptHost.Context.Operation
import ScriptHost.Proofs.Engine.Protection

/-!
# The operations of a context

`Operation` are the requests that a context answers and `Operation.perform` what it does with one.
All but two of them run a program under protection, `Operation.Runs`; what becomes of the context is
then said by `Engine.Left`.

* `Performed`: **all that an operation can do**, and `performed_of_perform`;
* `perform_dead`: what is left of it on a dead engine.
-/

namespace ScriptHost

open Stack Stacked Crossing

/-- A request to a context. -/
inductive Operation
  | evaluate (source : String)
  | evaluateFile (source filename : String)
  | execute (source : String)
  | executeFile (source filename : String)
  | getProperty (path : PropertyPath)
  | callProperty (path : PropertyPath) (args : List HostValue)
  | callSource (source : String) (args : List HostValue)
  | defineFunction (name : String) (function : CallableId)
  | collectGarbage
  | injectFatal (reason : String)

/-- The error that an operation has answered with. -/
def Context.failure? {M : Machine} {δ α : Type} (result : Context.Result M δ α) : Option Error :=
  match result with
  | some (.error e, _) => some e
  | _ => none

namespace Operation

/-- What the operation answers with. -/
def Value : Operation → Type
  | evaluate _ | evaluateFile .. | getProperty _ | callProperty .. | callSource .. => HostValue
  | execute _ | executeFile .. | defineFunction .. | collectGarbage | injectFatal _ => Unit

variable {M : Machine} {δ : Type}

/-- The operation, carried out on a context. -/
def perform (functions : HostFunctions δ) (ctx : Context M) (host : HostState δ) :
    (op : Operation) → Context.Result M δ op.Value
  | evaluate source => ctx.evaluate functions host source
  | evaluateFile source filename => ctx.evaluateFile functions host source filename
  | execute source => ctx.execute functions host source
  | executeFile source filename => ctx.executeFile functions host source filename
  | getProperty path => ctx.getProperty functions host path
  | callProperty path args => ctx.callProperty functions host path args
  | callSource source args => ctx.callSource functions host source args
  | defineFunction name function => ctx.defineFunction functions host name function
  | collectGarbage =>
    match ctx.collectGarbage with
    | .ok ctx' => some (.ok (), ctx', host)
    | .error e => some (.error e, ctx, host)
  | injectFatal reason => some (.error (ctx.injectFatal reason).1, (ctx.injectFatal reason).2, host)

/-- The program that the operation runs under protection on this context.  An operation without a
program answers by itself. -/
inductive Runs (ctx : Context M) : (op : Operation) → Crossing M δ Error op.Value → Prop
  | evaluate (source : String) : Runs ctx (.evaluate source) do
      check (runSource (Text.utf8 source) ctx.config.defaultFilename)
      ctx.marshaller.pop
  | evaluateFile (source filename : String) : Runs ctx (.evaluateFile source filename) do
      check (runSource (Text.utf8 source) filename)
      ctx.marshaller.pop
  | execute (source : String) : Runs ctx (.execute source) do
      check (runSource (Text.utf8 source) ctx.config.defaultFilename)
      Stack.pop.mapError Error.ofEngineError
  | executeFile (source filename : String) : Runs ctx (.executeFile source filename) do
      check (runSource (Text.utf8 source) filename)
      Stack.pop.mapError Error.ofEngineError
  | getProperty (path : PropertyPath) (h : path.isEmpty = false) : Runs ctx (.getProperty path) do
      Context.resolve path
      ctx.marshaller.pop
  | callProperty (path : PropertyPath) (args : List HostValue) (h : path.isEmpty = false) :
      Runs ctx (.callProperty path args) do
        Context.resolve path
        let function := (← depth) - 1
        (dup function).mapError Error.ofEngineError
        (dup (function - 1)).mapError Error.ofEngineError
        Context.callWith ctx.marshaller args
  | callSource (source : String) (args : List HostValue) : Runs ctx (.callSource source args) do
      check (runSource (Text.utf8 source) ctx.config.defaultFilename)
      pushUndefined
      Context.callWith ctx.marshaller args
  | defineFunction (name : String) (function : CallableId) :
      Runs ctx (.defineFunction name function) do
        pushNative name ⟨function, ctx.marshaller⟩
        check (putGlobal (Text.utf8 name))

/-- The error of an operation on a context whose engine is dead. -/
def refusal : Operation → Error
  | getProperty path | callProperty path _ =>
    if path.isEmpty then Context.emptyPath else Context.unusable
  | injectFatal _ => .internal Engine.deadReason
  | _ => Context.unusable

/-- The operation looks for a property under a path without keys. -/
def LooksNowhere : Operation → Prop
  | getProperty path | callProperty path _ => path.isEmpty = true
  | _ => False

theorem refusal_of_looksNowhere {op : Operation} (h : op.LooksNowhere) :
    op.refusal = Context.emptyPath := by
  cases op with
  | getProperty path => exact if_pos h
  | callProperty path args => exact if_pos h
  | _ => exact h.elim

theorem exists_refusal_eq_internal {op : Operation} (h : ¬ op.LooksNowhere) :
    ∃ reason, op.refusal = .internal reason := by
  cases op with
  | getProperty path => exact ⟨_, if_neg h⟩
  | callProperty path args => exact ⟨_, if_neg h⟩
  | _ => exact ⟨_, rfl⟩

end Operation

variable {M : Machine} {δ α : Type} {functions : HostFunctions δ} {ctx ctx' : Context M}
  {host host' : HostState δ}

namespace Context

/-- The program with the depth of the stack restored behind it. -/
def restoring (program : Crossing M δ Error α) : Crossing M δ Error α := do
  let base ← depth
  let result ← program.attempt
  setDepth base
  Crossing.ofExcept result

theorem isAlive_of_isValid (h : ctx.isValid = true) : ctx.engine.isAlive = true := by
  unfold isValid at h
  rw [Bool.and_eq_true] at h
  exact h.2

theorem left_of_runProgram {program : Crossing M δ Error α} {result : Except Error α}
    (hv : ctx.isValid = true)
    (h : ctx.runProgram functions host program = some (result, ctx', host')) :
    ∃ live, ctx.engine.live = some live ∧ ctx'.config = ctx.config ∧
      Engine.Left ctx.engine Error.ofEngineError
        (restoring program (nestedHandler (invoke functions) nestingLimit)
          (ctx.engine.entry live host)) result ctx'.engine host' := by
  obtain ⟨live, hlive⟩ := Option.isSome_iff_exists.mp (isAlive_of_isValid hv)
  unfold runProgram at h
  rw [if_pos hv] at h
  obtain ⟨⟨result', engine', host''⟩, hprotect, hend⟩ := Option.map_eq_some_iff.mp h
  obtain ⟨rfl, rfl, rfl⟩ :
      result' = result ∧ { ctx with engine := engine' } = ctx' ∧ host'' = host' := by
    simpa using hend
  exact ⟨live, hlive, rfl, Engine.left_of_protect hlive hprotect⟩

end Context

namespace Operation

variable {op : Operation}

/-- **All that an operation on a valid context can do.** -/
inductive Performed (functions : HostFunctions δ) (ctx : Context M) (host : HostState δ) :
    (op : Operation) → Except Error op.Value → Context M → HostState δ → Prop
  /-- A program was run under protection. -/
  | ran {op : Operation} {program : Crossing M δ Error op.Value}
      {live : M.State × Array BoundFunction} {result : Except Error op.Value}
      {engine : Engine M BoundFunction Unit} {host' : HostState δ}
      (hr : Runs ctx op program) (hlive : ctx.engine.live = some live)
      (h : Engine.Left ctx.engine Error.ofEngineError
        (Context.restoring program (nestedHandler (invoke functions) Context.nestingLimit)
          (ctx.engine.entry live host)) result engine host') :
      Performed functions ctx host op result ⟨engine, ctx.config⟩ host'
  | getNothing (path : PropertyPath) :
      Performed functions ctx host (.getProperty path) (.error Context.emptyPath) ctx host
  | callNothing (path : PropertyPath) (args : List HostValue) :
      Performed functions ctx host (.callProperty path args) (.error Context.emptyPath) ctx host
  | collected : Performed functions ctx host .collectGarbage (.ok ()) ctx host
  | aborted (reason : String) :
      Performed functions ctx host (.injectFatal reason) (.error (.internal reason))
        ⟨ctx.engine.abort reason, ctx.config⟩ host

theorem performed_of_runs {program : Crossing M δ Error op.Value} {result : Except Error op.Value}
    (hr : Runs ctx op program) (hv : ctx.isValid = true)
    (h : ctx.runProgram functions host program = some (result, ctx', host')) :
    Performed functions ctx host op result ctx' host' := by
  obtain ⟨live, hlive, hconfig, hleft⟩ := Context.left_of_runProgram hv h
  obtain ⟨engine, config⟩ := ctx'
  obtain rfl : config = ctx.config := hconfig
  exact .ran hr hlive hleft

theorem performed_of_perform {result : Except Error op.Value} (hv : ctx.isValid = true)
    (h : op.perform functions ctx host = some (result, ctx', host')) :
    Performed functions ctx host op result ctx' host' := by
  cases op with
  | evaluate source => exact performed_of_runs (.evaluate source) hv h
  | evaluateFile source filename => exact performed_of_runs (.evaluateFile source filename) hv h
  | execute source => exact performed_of_runs (.execute source) hv h
  | executeFile source filename => exact performed_of_runs (.executeFile source filename) hv h
  | getProperty path =>
    by_cases hpath : path.isEmpty = true
    · cases (if_pos hpath).symm.trans h
      exact .getNothing path
    · exact performed_of_runs (.getProperty path (by simpa using hpath)) hv
        ((if_neg hpath).symm.trans h)
  | callProperty path args =>
    by_cases hpath : path.isEmpty = true
    · cases (if_pos hpath).symm.trans h
      exact .callNothing path args
    · exact performed_of_runs (.callProperty path args (by simpa using hpath)) hv
        ((if_neg hpath).symm.trans h)
  | callSource source args => exact performed_of_runs (.callSource source args) hv h
  | defineFunction name function =>
    exact performed_of_runs (.defineFunction name function) hv h
  | collectGarbage =>
    simp only [perform, Context.collectGarbage, if_pos hv] at h
    cases h
    exact .collected
  | injectFatal reason =>
    have halive := Context.isAlive_of_isValid hv
    simp only [perform, Context.injectFatal, Engine.fatal, if_pos halive] at h
    cases h
    exact .aborted reason

/-- **On a dead engine nothing is run**, neither script nor a host function, and nothing changes. -/
theorem perform_dead (functions : HostFunctions δ) (host : HostState δ) (op : Operation)
    (hdead : ctx.engine.isAlive = false) :
    op.perform functions ctx host = some (.error op.refusal, ctx, host) := by
  have hv : ¬ ctx.isValid = true := by
    unfold Context.isValid
    simp [hdead]
  have hrun {α : Type} (program : Crossing M δ Error α) :
      ctx.runProgram functions host program = some (.error Context.unusable, ctx, host) := if_neg hv
  cases op with
  | evaluate source => exact hrun _
  | evaluateFile source filename => exact hrun _
  | execute source => exact hrun _
  | executeFile source filename => exact hrun _
  | getProperty path =>
    by_cases hpath : path.isEmpty = true
    · simp only [perform, refusal, Context.getProperty, if_pos hpath]
      rfl
    · simp only [perform, refusal, Context.getProperty, if_neg hpath]
      exact hrun _
  | callProperty path args =>
    by_cases hpath : path.isEmpty = true
    · simp only [perform, refusal, Context.callProperty, if_pos hpath]
      rfl
    · simp only [perform, refusal, Context.callProperty, if_neg hpath]
      exact hrun _
  | callSource source args => exact hrun _
  | defineFunction name function => exact hrun _
  | collectGarbage =>
    simp only [perform, Context.collectGarbage, if_neg hv]
    rfl
  | injectFatal reason =>
    have hdead' : ¬ ctx.engine.isAlive = true := by simp [hdead]
    simp only [perform, Context.injectFatal, Engine.fatal, if_neg hdead']
    rfl

end Operation

end ScriptHost
