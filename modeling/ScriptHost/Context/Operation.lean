import ScriptHost.Crossing.Call
import ScriptHost.Engine
import ScriptHost.Context.Config
import ScriptHost.Context.Path

/-!
# Contexts

A context is one engine and the settings of its conversions.  Every operation that runs script does
so under `Engine.protect` and takes the value stack back to the depth at which it began.  A context
is valid until its engine aborts, which fires the hook that the context installed,
and then never again.

* the operations: `evaluate`, `execute` (and under a file name `evaluateFile`, `executeFile`),
  `getProperty`, `callProperty`, `callSource`, `defineFunction`, `collectGarbage`, `injectFatal`;
* what they share: `runProgram`, `resolve`, `callWith`.
-/

namespace ScriptHost

open Stack Crossing

/-- A context on a machine `M`. -/
structure Context (M : Machine) where
  engine : Engine M BoundFunction Unit
  config : Config

namespace Context

variable {M : Machine} {δ α : Type}

/-- A context on a fresh machine, with the hook that invalidates it. -/
def new (M : Machine) (config : Config) : Context M :=
  ⟨(Engine.new M BoundFunction Unit).registerHook (), config⟩

/-- Whether script can still be run. -/
def isValid (ctx : Context M) : Bool := ctx.engine.fired.isEmpty && ctx.engine.isAlive

/-- The depth of the value stack. -/
def stackDepth (ctx : Context M) : Nat := ctx.engine.stackDepth

/-- The conversions that the settings ask for. -/
def marshaller (ctx : Context M) : Marshaller :=
  ⟨ctx.config.complexObject, ctx.config.maxDepth, ctx.config.maxElements⟩

/-- How an operation ends: its result, the context and the host's state after it.  There is no end
only if a run was longer than is allowed. -/
abbrev Result (M : Machine) (δ α : Type) := Option (Except Error α × Context M × HostState δ)

/-- The error of an operation on a context that is no longer valid. -/
def unusable : Error := .internal "context is unusable after a fatal engine error"

/-- How deep calls between script and host may nest. -/
def nestingLimit : Nat := 4096

/-- Runs a program under protection and restores the depth of the stack. -/
def runProgram (functions : HostFunctions δ) (ctx : Context M) (host : HostState δ)
    (program : Crossing M δ Error α) : Result M δ α :=
  if ctx.isValid then
    let restoring : Crossing M δ Error α := do
      let base ← depth
      let result ← program.attempt
      setDepth base
      Crossing.ofExcept result
    let handler := nestedHandler (invoke functions) nestingLimit
    (ctx.engine.protect host handler Error.ofEngineError restoring).map
      fun (result, engine, host) => (result, { ctx with engine := engine }, host)
  else some (.error unusable, ctx, host)

/-- Runs source under a file name and converts its completion value. -/
def evaluateFile (functions : HostFunctions δ) (ctx : Context M) (host : HostState δ)
    (source filename : String) : Result M δ HostValue :=
  ctx.runProgram functions host do
    check (runSource (Text.utf8 source) filename)
    ctx.marshaller.pop

/-- Runs source under the default file name and converts its completion value. -/
def evaluate (functions : HostFunctions δ) (ctx : Context M) (host : HostState δ)
    (source : String) : Result M δ HostValue :=
  ctx.evaluateFile functions host source ctx.config.defaultFilename

/-- Runs source under a file name for its effects; the completion value is dropped as it is. -/
def executeFile (functions : HostFunctions δ) (ctx : Context M) (host : HostState δ)
    (source filename : String) : Result M δ Unit :=
  ctx.runProgram functions host do
    check (runSource (Text.utf8 source) filename)
    Stack.pop.mapError Error.ofEngineError

/-- Runs source under the default file name for its effects. -/
def execute (functions : HostFunctions δ) (ctx : Context M) (host : HostState δ)
    (source : String) : Result M δ Unit :=
  ctx.executeFile functions host source ctx.config.defaultFilename

/-- The error for a path without keys. -/
def emptyPath : Error := .argumentType "property path must not be empty"

/-- Goes on from the value on top along the keys, each value left below the next. -/
def resolveFrom : List String → Crossing M δ Error Unit
  | [] => pure ()
  | key :: rest => do
    let base := (← depth) - 1
    if (← slotType base).isNullish then .fail (.typeError "invalid base value")
    let _ ← check (getProp base (Text.utf8 key))
    resolveFrom rest

/-- Follows a path from the global object; its last two values end up on top. -/
def resolve (path : PropertyPath) : Crossing M δ Error Unit :=
  match path.keys with
  | [] => .fail emptyPath
  | root :: rest => do
    pushGlobal
    let global := (← depth) - 1
    let found ← check (getProp global (Text.utf8 root))
    if !found then .fail (.reference s!"identifier '{root}' undefined")
    resolveFrom rest

/-- Pushes the arguments in order. -/
def pushArguments (m : Marshaller) : List HostValue → Crossing M δ Error Unit
  | [] => pure ()
  | arg :: rest => do
    m.push arg
    pushArguments m rest

/-- With a function and a receiver on top, pushes the arguments, calls, and converts the result. -/
def callWith (m : Marshaller) (args : List HostValue) : Crossing M δ Error HostValue := do
  pushArguments m args
  check (callMethod args.length)
  m.pop

/-- Reads the property at the end of a path. -/
def getProperty (functions : HostFunctions δ) (ctx : Context M) (host : HostState δ)
    (path : PropertyPath) : Result M δ HostValue :=
  if path.isEmpty then some (.error emptyPath, ctx, host)
  else ctx.runProgram functions host do
    resolve path
    ctx.marshaller.pop

/-- Calls the function at the end of a path, the object that holds it being the receiver. -/
def callProperty (functions : HostFunctions δ) (ctx : Context M) (host : HostState δ)
    (path : PropertyPath) (args : List HostValue) : Result M δ HostValue :=
  if path.isEmpty then some (.error emptyPath, ctx, host)
  else ctx.runProgram functions host do
    resolve path
    let function := (← depth) - 1
    (dup function).mapError Error.ofEngineError
    (dup (function - 1)).mapError Error.ofEngineError
    callWith ctx.marshaller args

/-- Runs source for a function and calls that without a receiver. -/
def callSource (functions : HostFunctions δ) (ctx : Context M) (host : HostState δ)
    (source : String) (args : List HostValue) : Result M δ HostValue :=
  ctx.runProgram functions host do
    check (runSource (Text.utf8 source) ctx.config.defaultFilename)
    pushUndefined
    callWith ctx.marshaller args

/-- Stores a host function in a property of the global object. -/
def defineFunction (functions : HostFunctions δ) (ctx : Context M) (host : HostState δ)
    (name : String) (function : CallableId) : Result M δ Unit :=
  ctx.runProgram functions host do
    pushNative name ⟨function, ctx.marshaller⟩
    check (putGlobal (Text.utf8 name))

/-- Forces a collection of garbage. -/
def collectGarbage (ctx : Context M) : Except Error (Context M) :=
  if ctx.isValid then .ok { ctx with engine := ctx.engine.collectGarbage } else .error unusable

/-- Aborts the engine as if a rule had been broken; always answers with an error. -/
def injectFatal (ctx : Context M) (reason : String) : Error × Context M :=
  let (e, engine) := ctx.engine.fatal reason
  (Error.ofEngineError e, { ctx with engine := engine })

end Context

end ScriptHost
