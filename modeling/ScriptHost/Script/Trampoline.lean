import ScriptHost.Machine.Act
import ScriptHost.Script.Library.Arithmetic
import ScriptHost.Script.Library.Arrays
import ScriptHost.Script.Library.Dates
import ScriptHost.Script.Library.Globals
import ScriptHost.Script.Library.Iterators
import ScriptHost.Script.Library.Reflection
import ScriptHost.Script.Library.Texts

/-!
# Answering requests

A run asks for calls (`Request`).  The trampoline keeps the runs that wait for an answer in a list,
so the depth of the script's calls is bounded by the machine's own limit and by nothing else.  A
call of a host function is passed on to whoever drives the machine.

* `enter`: what a request starts;
* `drive`: a run with its requests answered, as an `Act`;
* `Driver`: any way to answer them, and `Driver.trampoline` for this one.
-/

namespace ScriptHost.Script

open Run

/-- Runs a built-in function. -/
def Builtin.run (b : Builtin) (i : Invocation) : Run ScriptValue :=
  match b with
  | object op => op.run i
  | function op => op.run i
  | error op => op.run i
  | array op => op.run i
  | iterator op => op.run i
  | string op => op.run i
  | number op => op.run i
  | primitive op => op.run i
  | math op => op.run i
  | date op => op.run i
  | regexp op => op.run i
  | collection kind op => op.run kind i
  | reflect op => op.run i
  | binaryData op => op.run i
  | globals op => op.run i

/-- Calls a proxy, or constructs with it. -/
def enterProxy (self : Ref) (r : Request) : Run ScriptValue :=
  match r.target with
  | none =>
    trapped proxyOps self "apply" (fun target => call target r.this r.args)
      fun _ callTrap => do
        let args ← newArray r.args
        callTrap [r.this, .object args]
  | some target =>
    let target := if target = self then none else some target
    trapped proxyOps self "construct"
      (fun inner => construct inner r.args (target.getD inner))
      fun _ callTrap => do
        let args ← newArray r.args
        match ← callTrap [.object args, .object (target.getD self)] with
        | .object ref => pure (.object ref)
        | _ => throwTypeError "Proxy trap constructor returned non-object value"

/-- What a request starts. -/
inductive Entry
  | run (c : Comp ScriptValue)
  /-- A call of a host function, in the given state. -/
  | native (s : State) (id : NativeId)

/-- The number of active functions that are written in script. -/
def activeCount (s : State) : Nat := s.frames.countP fun f => f.file.isSome

/-- The message of the limit on active functions. -/
def tooManyCalls : String := "exceeded maximum number of recursive calls"

/-- The message of the limit on slots. -/
def tooManySlots : String := "exceeded maximum call stack length"

/-- The slots that a function needs for itself and its receiver, besides those for the arguments. -/
def callSlots : Nat := 2

/-- The slots of all active functions. -/
def usedSlots (s : State) : Nat := s.frames.foldl (fun n f => n + f.slots) 0

/-- Starts a request. -/
def enter (s : State) (r : Request) : Entry :=
  match (s.heap.lookUp r.callee).kind with
  | .function f =>
    match f.behaviour with
    | .bound target this args =>
      let target' := if r.target = some r.callee then some target else r.target
      .run (Run.request ⟨target, this, args ++ r.args, target', none⟩ s)
    | behaviour =>
      let failing (message : String) : Entry := .run (.done s (.error (.limit message s.trace)))
      let within (frame : Frame) : State := { s with frames := frame :: s.frames }
      if frameLimit ≤ activeCount s then failing tooManyCalls
      else
        match behaviour, r.inside with
        | .closure c, _ =>
          let slots := callSlots + r.args.length
          if slotLimit ≤ usedSlots s + slots then failing tooManySlots
          else
            let frame : Frame := ⟨f.label, some c.file, none, slots + c.code.info.slots⟩
            .run (callClosure c r.callee r (within frame))
        | .builtin (.globals .evaluate), some inside =>
          match r.args with
          | .string text :: _ => .run (evaluateText text (some inside) s)
          | args => .run (.done s (.ok (args.headD .undefined)))
        | .builtin op, _ => .run (op.run ⟨r.this, r.args, r.target⟩ (within (.builtin f.label)))
        | .native id, _ => .native (within (.builtin f.label)) id
        | .bound .., _ => .run (.done s (.ok .undefined))
  | .proxy .. => .run (enterProxy r.callee r s)
  | _ => .run (throwTypeError "not a callable function" s)

/-- The runs that wait for an answer, the innermost first, each with the frames that were active. -/
inductive Waiting (α : Type)
  | outermost (frames : List Frame) (next : State → Except Signal ScriptValue → Comp α)
  | inside (frames : List Frame) (next : State → Except Signal ScriptValue → Comp ScriptValue)
      (outer : Waiting α)

/-- How an early end is reported. -/
def Signal.failure : Signal → Failure
  | thrown v frames => ⟨.value v, (frames.take traceLimit).map Frame.line⟩
  | limit message frames => ⟨.limit message, (frames.take traceLimit).map Frame.line⟩
  | chainEnd => ⟨.value .undefined, []⟩

/-- What a host function answered, as a reply to a request made in a state. -/
def nativeReply (s : State) : Except ScriptValue ScriptValue → Except Signal ScriptValue
  | .ok v => .ok v
  | .error v => .error (.thrown v s.trace)

mutual

/-- Goes on with the outermost run. -/
def driveOutermost {α : Type} : (fuel : Nat) → (frames : List Frame) → Comp α → Act State α
  | 0, _, _ => .exhausted
  | fuel + 1, frames, c =>
    match c with
    | .done s (.ok a) => .done { s with frames := frames } (.ok a)
    | .done s (.error e) => .done { s with frames := frames } (.error e.failure)
    | .crash message => .crash message
    | .exhausted => .exhausted
    | .call s r next =>
      match enter s r with
      | .run inner => driveInside fuel frames inner (.outermost s.frames next)
      | .native s' id => .native s' id r.this r.args fun s' reply =>
        driveOutermost fuel frames
          (next { s' with frames := s.frames } (nativeReply s reply))

/-- Goes on with an inner run. -/
def driveInside {α : Type} : (fuel : Nat) → (frames : List Frame) → Comp ScriptValue → Waiting α →
    Act State α
  | 0, _, _, _ => .exhausted
  | fuel + 1, frames, c, waiting =>
    match c with
    | .done s r =>
      match waiting with
      | .outermost own next => driveOutermost fuel frames (next { s with frames := own } r)
      | .inside own next outer => driveInside fuel frames (next { s with frames := own } r) outer
    | .crash message => .crash message
    | .exhausted => .exhausted
    | .call s r next =>
      match enter s r with
      | .run inner => driveInside fuel frames inner (.inside s.frames next waiting)
      | .native s' id => .native s' id r.this r.args fun s' reply =>
        driveInside fuel frames (next { s' with frames := s.frames } (nativeReply s reply)) waiting

end

/-- The number of requests that one operation may make. -/
def requestLimit : Nat := 1 <<< 48

/-- A run with its requests answered. -/
def drive {α : Type} (x : Run α) (s : State) : Act State α :=
  driveOutermost requestLimit s.frames (x s)

/-- A way to answer requests.  A run that makes none ends as it does by itself. -/
structure Driver where
  drive : {α : Type} → Run α → State → Act State α
  drive_done : ∀ {α : Type} {x : Run α} {s s' : State} {r : Except Signal α}, x s = .done s' r →
    drive x s = .done { s' with frames := s.frames } (r.mapError Signal.failure)

/-- What calls a function gets an answer from running it. -/
def Driver.trampoline : Driver where
  drive := Script.drive
  drive_done {_ x s s' r} h := by
    unfold Script.drive
    rw [h, show requestLimit = (requestLimit - 1) + 1 from rfl]
    cases r <;> rfl

end ScriptHost.Script
