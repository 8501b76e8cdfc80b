import ScriptHost.Script.State
import ScriptHost.Text.Utf16

/-!
# Running script

`Run α` is a piece of a script's run.  It ends, by itself or early (`Signal`), or it asks for a
function to be called and goes on with the reply; `ScriptHost.Script.Trampoline` answers these
requests, so a run needs no stack of its own for the calls of the script.

* `Run.throwValue`, `Run.throwNew`, `Run.attempt`;
* `Run.call`, `Run.construct`: requests;
* `Run.repeatUntil`: loops.
-/

namespace ScriptHost.Script

/-- Why a run ended early. -/
inductive Signal
  /-- A value was thrown, with the frames that were active. -/
  | thrown (v : ScriptValue) (frames : List Frame)
  /-- A limit was met, which no script can catch. -/
  | limit (message : String) (frames : List Frame)
  /-- A chain of properties is left. -/
  | chainEnd

/-- Code that source may be evaluated in: its scope and its strictness. -/
structure Surrounding where
  scope : ScopeRef
  strict : Bool

/-- A request to call a function, or to construct with it for a target.  A call of the function that
evaluates source may come with the code that the source is to run in. -/
structure Request where
  callee : Ref
  this : ScriptValue
  args : List ScriptValue
  target : Option Ref
  inside : Option Surrounding

/-- A run cut at its calls. -/
inductive Comp (α : Type) : Type
  | done (s : State) (result : Except Signal α)
  | call (s : State) (request : Request) (next : State → Except Signal ScriptValue → Comp α)
  | crash (message : String)
  | exhausted

/-- A piece of a run that gives an `α`. -/
def Run (α : Type) : Type := State → Comp α

/-- Goes on behind a run, however it ended. -/
def Comp.bindResult {α β : Type} : Comp α → (Except Signal α → State → Comp β) → Comp β
  | .done s r, f => f r s
  | .call s request next, f => .call s request fun s reply => (next s reply).bindResult f
  | .crash message, _ => .crash message
  | .exhausted, _ => .exhausted

/-- A text as messages show it. -/
def nameText (text : Units) : String := String.ofList (Text.pairUnitsLossyChars text)

namespace Run

variable {α β : Type}

protected def pure (a : α) : Run α := fun s => .done s (.ok a)

protected def bind (x : Run α) (f : α → Run β) : Run β := fun s =>
  match x s with
  | .done s (.ok a) => f a s
  | .done s (.error e) => .done s (.error e)
  | .call s request next => .call s request fun s reply =>
    (next s reply).bindResult fun r s =>
      match r with
      | .ok a => f a s
      | .error e => .done s (.error e)
  | .crash message => .crash message
  | .exhausted => .exhausted

instance : Monad Run where
  pure := Run.pure
  bind := Run.bind

instance : Inhabited (Run α) := ⟨fun _ => .exhausted⟩

/-- Reads the state. -/
def read (f : State → α) : Run α := fun s => .done s (.ok (f s))

/-- Changes the state and answers with something. -/
def change (f : State → α × State) : Run α := fun s =>
  let (a, s) := f s
  .done s (.ok a)

/-- Changes the state. -/
def update (f : State → State) : Run Unit := fun s => .done (f s) (.ok ())

/-- Ends early. -/
def leave (e : Signal) : Run α := fun s => .done s (.error e)

/-- Throws a value. -/
def throwValue (v : ScriptValue) : Run α := fun s => .done s (.error (.thrown v s.trace))

/-- The end of a piece of a run as a value. -/
def attempt (x : Run α) : Run (Except Signal α) := fun s =>
  (x s).bindResult fun r s => .done s (.ok r)

/-- Goes on with the end of another piece. -/
def resume (r : Except Signal α) : Run α := fun s => .done s r

/-- Asks for a call. -/
def request (r : Request) : Run ScriptValue := fun s => .call s r fun s reply => .done s reply

/-- Calls a function. -/
def call (callee : Ref) (this : ScriptValue) (args : List ScriptValue) : Run ScriptValue :=
  request ⟨callee, this, args, none, none⟩

/-- Constructs with a constructor, for a target. -/
def construct (callee : Ref) (args : List ScriptValue) (target : Ref) : Run ScriptValue :=
  request ⟨callee, .undefined, args, some target, none⟩

/-- Repeats a piece until it gives something; `fuel` bounds the number of rounds. -/
def repeatUntil : (fuel : Nat) → Run (Option α) → Run α
  | 0, _ => fun _ => .exhausted
  | fuel + 1, x => fun s =>
    match x s with
    | .done s (.ok none) => repeatUntil fuel x s
    | .done s (.ok (some a)) => .done s (.ok a)
    | .done s (.error e) => .done s (.error e)
    | .call s request next => .call s request fun s reply =>
      (next s reply).bindResult fun r s =>
        match r with
        | .ok none => repeatUntil fuel x s
        | .ok (some a) => .done s (.ok a)
        | .error e => .done s (.error e)
    | .crash message => .crash message
    | .exhausted => .exhausted

/-- The number of rounds that any loop may take. -/
def roundLimit : Nat := 1 <<< 40

/-- Repeats a piece until it gives something. -/
def loop (x : Run (Option α)) : Run α := repeatUntil roundLimit x

/-- Goes through a range of numbers, `count` of them from `first` on, changing a value at each; the
answer at a number may be an end before the last one. -/
def scan {γ : Type} (step : Nat → γ → Run (Except α γ)) :
    (count first : Nat) → γ → Run (Except α γ)
  | 0, _, c => pure (.ok c)
  | count + 1, first, c => fun s =>
    match step first c s with
    | .done s (.ok (.ok c)) => scan step count (first + 1) c s
    | .done s (.ok (.error a)) => .done s (.ok (.error a))
    | .done s (.error e) => .done s (.error e)
    | .call s request next => .call s request fun s reply =>
      (next s reply).bindResult fun r s =>
        match r with
        | .ok (.ok c) => scan step count (first + 1) c s
        | .ok (.error a) => .done s (.ok (.error a))
        | .error e => .done s (.error e)
    | .crash message => .crash message
    | .exhausted => .exhausted

/-- Does something for each of `count` numbers from `first` on. -/
def forRange (count first : Nat) (step : Nat → Run Unit) : Run Unit := do
  let _ ← scan (α := Empty) (fun n _ => do step n; pure (.ok ())) count first ()

/-- Does something for each item in order, changing a value. -/
def foldItems {γ δ : Type} (step : δ → γ → Run δ) : List γ → δ → Run δ
  | [], d => pure d
  | c :: rest, d => fun s =>
    match step d c s with
    | .done s (.ok d) => foldItems step rest d s
    | .done s (.error e) => .done s (.error e)
    | .call s request next => .call s request fun s reply =>
      (next s reply).bindResult fun r s =>
        match r with
        | .ok d => foldItems step rest d s
        | .error e => .done s (.error e)
    | .crash message => .crash message
    | .exhausted => .exhausted

/-- Does something for each item in order. -/
def forItems {γ : Type} (items : List γ) (step : γ → Run Unit) : Run Unit :=
  foldItems (fun _ c => step c) items ()

/-! ## Objects -/

/-- The object at a place. -/
def objectAt (ref : Ref) : Run Object := read fun s => s.heap.lookUp ref

/-- Stores a new object. -/
def allocate (o : Object) : Run Ref := change fun s =>
  let (ref, heap) := s.heap.allocate o
  (ref, { s with heap := heap })

/-- Replaces the object at a place. -/
def replaceObject (ref : Ref) (o : Object) : Run Unit :=
  update fun s => { s with heap := s.heap.replace ref o }

/-- Changes the object at a place. -/
def modifyObject (ref : Ref) (f : Object → Object) : Run Unit :=
  update fun s => { s with heap := s.heap.modify ref f }

/-- A new ordinary object. -/
def newObject : Run Ref := allocate (.empty (some Intrinsic.objectPrototype.ref) .ordinary)

/-- A new error object of a class with a message. -/
def errorObject (cls : ErrorClass) (message : Units) (origin : Option Origin) : Object :=
  (Object.empty (some cls.prototype.ref) (.error origin)).put (.name (Text.units "message"))
    (.hidden (.string message))

/-- Throws a new error. -/
def throwNew (cls : ErrorClass) (message : String) : Run α := do
  let ref ← allocate (errorObject cls (Text.units message) none)
  throwValue (.object ref)

def throwTypeError (message : String) : Run α := throwNew .typeError message

def throwRangeError (message : String) : Run α := throwNew .rangeError message

end Run

end ScriptHost.Script
