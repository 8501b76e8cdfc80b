import ScriptHost.Crossing.Host
import ScriptHost.Value.Equality

/-!
# Sample host functions

A small set of host functions for trying out a context: they give back arguments, count and add
them, look at the receiver, build further functions, fail and panic.  A function with a label writes
each of its calls into a log.
-/

namespace ScriptHost.Sample

/-- How a sample function fails: with messages around an error or a message, the outermost first. -/
structure Failing where
  messages : List String
  root : Error ⊕ String

/-- What a sample function does when it is called. -/
inductive Behaviour
  /-- Gives back an argument, null if it is missing. -/
  | argument (index : Nat)
  | arguments
  | count
  /-- Adds the numbers among the arguments from left to right, beginning with zero. -/
  | sum
  | constant (value : HostValue)
  | receiver
  /-- The receiver, converted twice. -/
  | receiverTwice
  /-- The entry `key` of the receiver, null if there is none. -/
  | receiverEntry (key : String)
  /-- A map of the receiver, or of the text of the error that its conversion met. -/
  | receiverOrError
  /-- A new function that gives back these arguments and its own. -/
  | curry
  /-- What `curry` builds. -/
  | curried (outer : List HostValue)
  | fail (failing : Failing)
  | panic (payload : Payload)

/-- A sample function: its label, if it is logged, and its behaviour. -/
structure Function where
  label : Option String
  behaviour : Behaviour

/-- A call in the log. -/
structure Call where
  label : String
  args : List HostValue

/-- The functions made so far, by identity, and the calls logged, the last one first. -/
structure State where
  functions : Array Function
  calls : List Call

/-- Adds a function. -/
def State.add (state : State) (f : Function) : CallableId × State :=
  (⟨state.functions.size⟩, { state with functions := state.functions.push f })

/-- The numbers of a list, added from left to right. -/
def sumNumbers (args : List HostValue) : Float :=
  args.foldl (fun total v => match v.asNumber? with
    | some x => total + x
    | none => total) 0

/-- Fails with an error of the conversion. -/
def failWith (e : Error) (host : HostState State) : HostRun (HostState State) :=
  .failed ⟨[], .inl e⟩ host

/-- One call of a behaviour. -/
def Behaviour.run (behaviour : Behaviour) (args : List HostValue) (host : HostState State) :
    HostRun (HostState State) :=
  match behaviour with
  | argument index => .returned (args[index]?.getD .null) host
  | arguments => .returned (.array args) host
  | count => .returned (.number (Float.ofNat args.length)) host
  | sum => .returned (.number (sumNumbers args)) host
  | constant value => .returned value host
  | receiver => .askThis host fun this host =>
    match this with
    | .ok v => .returned v host
    | .error e => failWith e host
  | receiverTwice => .askThis host fun first host =>
    match first with
    | .error e => failWith e host
    | .ok v => .askThis host fun second host =>
      match second with
      | .error e => failWith e host
      | .ok w => .returned (.array [v, w]) host
  | receiverEntry key => .askThis host fun this host =>
    match this with
    | .ok v => .returned ((v.get? key).getD .null) host
    | .error e => failWith e host
  | receiverOrError => .askThis host fun this host =>
    let entry : String × HostValue := match this with
      | .ok v => ("ok", v)
      | .error e => ("err", .string e.text)
    .returned (.map [(.string entry.1, entry.2)]) host
  | curry =>
    let (id, own) := host.own.add ⟨none, curried args⟩
    .returned (.callable id) { host with own := own }
  | curried outer => .returned (.array [.array outer, .array args]) host
  | fail ⟨messages, root⟩ => .failed ⟨messages.map .inr, root⟩ host
  | panic payload => .panicked payload host

/-- What the sample functions do; an unknown identity gives null. -/
def functions : HostFunctions State := fun id args host =>
  match host.own.functions[id.index]? with
  | none => .returned .null host
  | some f =>
    let calls := match f.label with
      | some label => ⟨label, args⟩ :: host.own.calls
      | none => host.own.calls
    f.behaviour.run args { host with own := { host.own with calls := calls } }

end ScriptHost.Sample
