import ScriptHost.Proofs.Context.Defining
import ScriptHost.Proofs.Script.Marking

/-!
# What leaving the machine does to a thrown value

A primitive that throws leaves the thrown value itself on top of the stack, with its trace recorded
if it takes one.  A trace that is there is never replaced,
so an error that is thrown again keeps its first one.

* `Departs`: how a primitive throws whose run on the machine fails; `program_thrown_iff`;
* `Rethrown`: one object thrown again and again, and `Rethrown.keeps`: it keeps its trace;
* `departs_with_trace`: **a thrown value leaves with nothing but a trace**.
-/

namespace ScriptHost

open Stack Stacked

section

open Script

variable {driver : Driver} {κ ω : Type} {handler : Handler (scriptMachineBy driver) κ ω} {ref : Ref}
  {v : ScriptValue} {failure : Failure} {w : World (scriptMachineBy driver) κ ω}

/-! ## One primitive, and any number of them -/

/-- How a primitive throws whose run on the machine fails in the world `w`.  What stands for the
failure is on what is left of the stack, and its trace is recorded, and that is all. -/
inductive Departs (handler : Handler (scriptMachineBy driver) κ ω) (p : Fallible)
    (s : Session (scriptMachineBy driver) κ ω) (failure : Failure)
    (w : World (scriptMachineBy driver) κ ω) : Session (scriptMachineBy driver) κ ω → Prop
  | intro {v : ScriptValue} {made t : State} (hfails : p.program.FailsBy handler s failure w)
    (hstands : Stands w.machine failure.cause v made)
    (hmarked : Marked ((scriptMachineBy driver).traceText made failure) made v t) :
    Departs handler p s failure w
      ⟨{ w with machine := t }, (s.slots.take (s.slots.size - p.pops)).push v, s.poison⟩

/-- The trace that an object has of its own. -/
def ownTrace (w : World (scriptMachineBy driver) κ ω) (ref : Ref) : Option Property :=
  ((State.heap w.machine).lookUp ref).find? stackKey

/-- One object is thrown by any number of primitives, one after the other.  Whatever happens in
between and in their scripts, when one of them fails the object has the trace that the one before
has left it with. -/
inductive Rethrown (handler : Handler (scriptMachineBy driver) κ ω) (ref : Ref)
    (s : Session (scriptMachineBy driver) κ ω) : Session (scriptMachineBy driver) κ ω → Prop
  | nil : Rethrown handler ref s s
  | again {t t' u : Session (scriptMachineBy driver) κ ω} {p : Fallible} {failure : Failure}
    {w : World (scriptMachineBy driver) κ ω} (h : Rethrown handler ref s t)
    (hkept : ownTrace w ref = ownTrace t.world ref) (hcause : failure.cause = .value (.object ref))
    (hdeparts : Departs handler p t' failure w u) : Rethrown handler ref s u

variable {p : Fallible} {s s' : Session (scriptMachineBy driver) κ ω} {q : Property}

theorem program_thrown_iff : p.program handler s = .error .thrown s' ↔
    (∃ failure w, Departs handler p s failure w s') ∨ Uncallable s p s' := by
  refine (p.thrown_iff handler s s').trans (or_congr_left ?_)
  constructor
  · rintro ⟨failure, w, v, w', hfails, hthrown, rfl⟩
    obtain ⟨made, t, hstands, hmarked, rfl⟩ := thrownAs_iff.mp hthrown
    exact ⟨failure, w, .intro hfails hstands hmarked⟩
  · rintro ⟨failure, w, @⟨v, made, t, hfails, hstands, hmarked⟩⟩
    exact ⟨failure, w, v, _, hfails, thrownAs_of_marked hstands hmarked, rfl⟩

/-- For a limit there is a new range error with the message of the limit, and with its trace. -/
theorem Departs.eq_of_limit {message : String} (h : Departs handler p s failure w s')
    (hcause : failure.cause = .limit message) :
    let error := Run.errorObject .rangeError (Text.units message) none
    let trace := (scriptMachineBy driver).traceText (State.grown w.machine [error]) failure
    s' = ⟨{ w with machine :=
        State.grown w.machine [error.put stackKey (.hidden (.string trace))] },
      (s.slots.take (s.slots.size - p.pops)).push (.object (State.next w.machine)), s.poison⟩ := by
  intro error trace
  obtain ⟨-, hstands, hmarked⟩ := h
  rw [hcause] at hstands
  cases hstands
  obtain rfl := hmarked.unique (.of_new rfl rfl rfl)
  rfl

theorem Departs.marked_of_value (h : Departs handler p s failure w s')
    (hcause : failure.cause = .value v) :
    Marked ((scriptMachineBy driver).traceText w.machine failure) w.machine v s'.world.machine := by
  obtain ⟨-, hstands, hmarked⟩ := h
  rw [hcause] at hstands
  cases hstands
  exact hmarked

theorem Departs.ownTrace_eq (h : Departs handler p s failure w s')
    (hcause : failure.cause = .value (.object ref)) (htakes : TakesTrace w.machine ref) :
    ownTrace s'.world ref =
      some (.hidden (.string ((scriptMachineBy driver).traceText w.machine failure))) :=
  (h.marked_of_value hcause).marksOnly.recorded ref rfl htakes

theorem Departs.keeps (h : Departs handler p s failure w s')
    (hcause : failure.cause = .value (.object ref)) (hown : ownTrace w ref = some q) :
    ownTrace s'.world ref = some q :=
  (h.marked_of_value hcause).keeps hown

theorem Rethrown.keeps {t : Session (scriptMachineBy driver) κ ω} (h : Rethrown handler ref s t)
    (hown : ownTrace s.world ref = some q) : ownTrace t.world ref = some q := by
  induction h with
  | nil => exact hown
  | again _ hkept hcause hdeparts ih => exact hdeparts.keeps hcause (hkept.trans ih)

/-- **A thrown value leaves the machine with nothing but a trace.**  What a primitive leaves on top
is the value that was thrown, or a new range error for a limit.  Nothing that there was is changed,
but that an error object which has no trace of its own and can be extended gets one.  So if one
error is thrown again and again, it keeps the trace that was recorded first, or whatever it had of
its own before. -/
theorem departs_with_trace (handler : Handler (scriptMachineBy driver) κ ω) :
    (∀ (p : Fallible) (s s' : Session (scriptMachineBy driver) κ ω),
      p.program handler s = .error .thrown s' ↔
        (∃ failure w, Departs handler p s failure w s') ∨ Uncallable s p s') ∧
    (∀ trace s v t, Marked trace s v t → MarksOnly trace s v t) ∧
    (∀ p s failure w s' message, Departs handler p s failure w s' → failure.cause = .limit message →
      let error := Run.errorObject .rangeError (Text.units message) none
      let trace := (scriptMachineBy driver).traceText (State.grown w.machine [error]) failure
      s' = ⟨{ w with machine :=
          State.grown w.machine [error.put stackKey (.hidden (.string trace))] },
        (s.slots.take (s.slots.size - p.pops)).push (.object (State.next w.machine)), s.poison⟩) ∧
    (∀ p s failure w ref s' t, Departs handler p s failure w s' →
      failure.cause = .value (.object ref) → TakesTrace w.machine ref → Rethrown handler ref s' t →
        ownTrace t.world ref =
          some (.hidden (.string ((scriptMachineBy driver).traceText w.machine failure)))) ∧
    ∀ ref s t p, Rethrown handler ref s t → ownTrace s.world ref = some p →
      ownTrace t.world ref = some p := by
  refine ⟨fun p s s' => program_thrown_iff, fun _ _ _ _ h => h.marksOnly,
    fun _ _ _ _ _ _ h hcause => h.eq_of_limit hcause, ?_, fun _ _ _ _ h hown => h.keeps hown⟩
  intro p s failure w ref s' t hdeparts hcause htakes hrethrown
  exact hrethrown.keeps (hdeparts.ownTrace_eq hcause htakes)

end

/-! ### An error that is thrown twice -/

section

open Script

/-- A machine with an error and a function of the host. -/
def throwingState : State where
  heap := ⟨#[typeErrorObject "lost",
    { (default : Object) with kind := .function ⟨.native ⟨0⟩, "f", false⟩ }]⟩
  scopes := #[]
  symbols := #[]
  registered := []
  frames := []
  converting := []

/-- The host throws what its function is called with. -/
def throwBack : Handler scriptMachine Unit Unit := fun _ _ args w =>
  .ended (.error (args.headD .undefined)) w

/-- The function is to be called with the error. -/
def throwing (s : State) : Session scriptMachine Unit Unit :=
  ⟨⟨s, #[()], ()⟩, #[.object 1, .undefined, .object 0], none⟩

/-- The failure of a run that lets the error out. -/
def escaped (s : State) : Failure := Signal.failure (.thrown (.object 0) s.trace)

theorem failsBy_throwing {s : State}
    (hkind : (s.heap.lookUp 1).kind = .function ⟨.native ⟨0⟩, "f", false⟩)
    (hroom : activeCount s < frameLimit) :
    (Fallible.callMethod 1).program.FailsBy throwBack (throwing s) (escaped s)
      (throwing s).world := by
  have hend : (scriptMachine.call 1 .undefined [.object 0] s).drive throwBack (throwing s).world =
      .ended (.error (escaped s)) (throwing s).world := by
    rw [call_native hkind hroom]
    rfl
  have hshape : scriptMachine.shape s 1 = .function := by
    show shapeOf s 1 = .function
    rw [shapeOf, hkind]
  have hslots : (throwing s).slots = (#[].push (.object 1)).push .undefined ++ #[.object 0] := rfl
  exact failsBy_callMethod hslots
    (failsBy_callTaken hshape (.first ⟨.call 1 .undefined [.object 0], .here, hend⟩))

/-- The second time the error is thrown by other code.  It keeps the trace of the first time. -/
theorem departs_with_trace_twice :
    let call : Fallible := .callMethod 1
    let first : State := throwingState
    ∃ (s t : Session scriptMachine Unit Unit) (second : State),
      second = { (s.world.machine : State) with frames := [⟨"g", some "a.js", none, 2⟩] } ∧
      call.program throwBack (throwing first) = .error .thrown s ∧ s.slots = #[.object 0] ∧
      call.program throwBack (throwing second) = .error .thrown t ∧ t.slots = #[.object 0] ∧
      TakesTrace first 0 ∧ (escaped first).trace ≠ (escaped second).trace ∧
      ownTrace t.world 0 =
        some (.hidden (.string (scriptMachine.traceText first (escaped first)))) := by
  intro call first
  obtain ⟨hthrown, -, -, hkeeps, -⟩ := departs_with_trace throwBack
  let marked : State := first.replaced 0 ((first.heap.lookUp 0).put stackKey
    (.hidden (.string (scriptMachine.traceText first (escaped first)))))
  let second : State := { marked with frames := [⟨"g", some "a.js", none, 2⟩] }
  let left (s : State) : Session scriptMachine Unit Unit := ⟨(throwing s).world, #[.object 0], none⟩
  have htakes : TakesTrace first 0 := ⟨rfl, rfl, rfl⟩
  have hfirst : Departs throwBack call (throwing first) (escaped first) (throwing first).world
      (left marked) := .intro (failsBy_throwing rfl (by decide)) (.value _) (.recorded htakes)
  have hrecorded : (second.heap.lookUp 0).find? stackKey = some _ := hfirst.ownTrace_eq rfl htakes
  have htraced : Marked (scriptMachine.traceText second (escaped second)) second
      (.object 0) second :=
    .untouched fun ref href h => by
      cases href
      cases hrecorded.symm.trans h.traceless
  have hsecond : Departs throwBack call (throwing second) (escaped second) (throwing second).world
      (left second) := .intro (failsBy_throwing rfl (by decide)) (.value _) htraced
  have huntouched : ownTrace (throwing second).world 0 = ownTrace (left marked).world 0 := rfl
  refine ⟨left marked, left second, second, rfl, (hthrown call _ _).mpr (.inl ⟨_, _, hfirst⟩), rfl,
    (hthrown call _ _).mpr (.inl ⟨_, _, hsecond⟩), rfl, htakes, by decide, ?_⟩
  exact hkeeps call _ _ _ 0 _ _ hfirst rfl htakes (.again .nil huntouched rfl hsecond)

end

end ScriptHost
