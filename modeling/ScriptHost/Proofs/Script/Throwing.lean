import ScriptHost.Proofs.Script.Marking

/-!
# Type errors of the machine

What the machine refuses it refuses by a new type error.  On its way to the host the error gets a
trace, and then its name, message and trace are read.  Message and trace are its own; the name is
looked for on the prototype of type errors, and to read it there runs no script unless somebody has
put a getter, a proxy or an object there.

* `typeErrorObject`, `tracedError`: the error as it is made, and with its trace;
* `Heap.Quiet`: a property that is read and printed without running script;
* `thrownAs_typeError`, `exists_classified_typeError`: **the error comes out with nothing but new
  objects**; `exists_classify_typeError` takes it from the stack.
-/

namespace ScriptHost

open Stack

namespace Script

variable {α : Type} {s : State} {o : Object} {ref : Ref} {k : Key} {v : ScriptValue}

/-! ## The error -/

/-- A type error as the machine makes it. -/
def typeErrorObject (message : String) : Object :=
  Run.errorObject .typeError (Text.units message) none

/-- The error once its trace has been recorded. -/
def tracedError (message : String) (trace : Units) : Object :=
  (typeErrorObject message).put (.ofUnits (Text.units "stack")) (.hidden (.string trace))

theorem throwTypeError_eq (message : String) (s : State) : (Run.throwTypeError message : Run α) s =
    .done (s.grown [typeErrorObject message]) (.error (.thrown (.object s.next) s.trace)) := by
  have hallocate : (s.heap.allocate (typeErrorObject message)).2 =
      (s.grown [typeErrorObject message]).heap := by
    simp [Heap.allocate, State.grown]
  show Comp.done { s with heap := (s.heap.allocate (typeErrorObject message)).2 } _ = _
  rw [hallocate]
  rfl

theorem find?_tracedError_name (message : String) (trace : Units) :
    (tracedError message trace).find? (.ofUnits (Text.units "name")) = none := rfl

theorem find?_tracedError_message (message : String) (trace : Units) :
    (tracedError message trace).find? (.ofUnits (Text.units "message")) =
      some (.hidden (.string (Text.units message))) := rfl

theorem find?_tracedError_stack (message : String) (trace : Units) :
    (tracedError message trace).find? (.ofUnits (Text.units "stack")) =
      some (.hidden (.string trace)) := rfl

/-! ## Reading in quiet -/

/-- What is found under the key, if anything, is read and printed without running script: it is
neither got from a getter or a proxy nor an object. -/
def Heap.Quiet (h : Heap) (k : Key) (ref : Ref) : Prop :=
  h.search k ref = .absent ∨ ∃ p, h.search k ref = .found p ∧
    (∀ getter setter, p.slot = .accessor getter setter → getter = none) ∧
    ∀ place writable, p.slot ≠ .data (.object place) writable

theorem Heap.Quiet.grown (h : s.heap.Quiet k ref) (hin : ∀ last, s.heap.OnChain ref last →
    last < s.next) (new : List Object) : (s.grown new).heap.Quiet k ref := by
  unfold Heap.Quiet
  rwa [search_grown hin]

/-- What is read in quiet is no object. -/
theorem look_of_quiet (h : s.heap.Quiet k ref) : ∃ found u, Run.has ref k s = .done s (.ok found) ∧
    Run.get ref k s = .done s (.ok u) ∧ ∀ place, u ≠ .object place := by
  rcases h with habsent | ⟨⟨slot, enumerable, configurable⟩, hfound, hgetter, hobject⟩
  · refine ⟨false, .undefined, ?_, ?_, fun _ => ScriptValue.noConfusion⟩
    · simp only [Run.has, Run.hasWith, Run.read, bind, Run.bind, habsent, pure, Run.pure]
    · simp only [Run.get, Run.getWith, Run.read, bind, Run.bind, habsent, pure, Run.pure]
  · cases slot with
    | data u writable =>
      exact ⟨true, u, has_of_found hfound, get_of_found hfound rfl,
        fun place hu => hobject place writable (hu ▸ rfl)⟩
    | accessor getter setter =>
      obtain rfl := hgetter getter setter rfl
      refine ⟨true, .undefined, has_of_found hfound, ?_, fun _ => ScriptValue.noConfusion⟩
      simp only [Run.get, Run.getWith, Run.read, bind, Run.bind, hfound,
        Run.propertyValue, pure, Run.pure]

theorem toText_of_not_object (hv : ∀ place, v ≠ .object place) (s : State) :
    ∃ new result, Run.toText v s = .done (s.grown new) result := by
  cases v with
  | object place => exact absurd rfl (hv place)
  | symbol id => exact ⟨[_], _, throwTypeError_eq "can't convert symbol to string" s⟩
  | _ =>
    rw [← s.grown_nil]
    exact ⟨[], _, rfl⟩

end Script

/-! ## On its way to the host -/

section

open Script

variable {driver : Driver} {κ ω : Type} {handler : Handler (scriptMachineBy driver) κ ω} {s : State}
  {natives : Array κ} {host : ω} {ref : Ref} {key : String} {v u : ScriptValue} {found : Bool}

/-- The world with new objects in its machine. -/
abbrev worldOf (driver : Driver) (s : State) (natives : Array κ) (host : ω) :
    World (scriptMachineBy driver) κ ω := ⟨s, natives, host⟩

theorem exists_printed_of_not_object (hv : ∀ place, v ≠ .object place) (s : State) :
    ∃ text new, Printed handler v (worldOf driver s natives host) text
      (worldOf driver (s.grown new) natives host) := by
  obtain ⟨new, result, htext⟩ := toText_of_not_object hv s
  have hdrive := congrArg (Act.drive handler · (worldOf driver s natives host))
    (driver.drive_done htext)
  cases result with
  | ok text => exact ⟨_, new, .text hdrive⟩
  | error e => exact ⟨none, new, .thrown hdrive⟩

theorem lookedUp_of_done (handler : Handler (scriptMachineBy driver) κ ω) (natives : Array κ)
    (host : ω) (hhas : Run.has ref (.ofUnits (Text.units key)) s = .done s (.ok found))
    (hget : Run.get ref (.ofUnits (Text.units key)) s = .done s (.ok u)) :
    LookedUp handler (.object ref) (Text.units key) (worldOf driver s natives host) (some u)
      (worldOf driver s natives host) := by
  have hobject : Run.toObject (.object ref) s = .done s (.ok ref) := rfl
  exact .found (congrArg (Act.drive handler · (worldOf driver s natives host))
    (driver.drive_ok hobject))
    (congrArg (Act.drive handler · (worldOf driver s natives host)) (driver.drive_ok hhas))
    (congrArg (Act.drive handler · (worldOf driver s natives host)) (driver.drive_ok hget))

theorem exists_readAsText_of_quiet (handler : Handler (scriptMachineBy driver) κ ω)
    (natives : Array κ) (host : ω) (h : s.heap.Quiet (.ofUnits (Text.units key)) ref) :
    ∃ text new, ReadAsText handler (.object ref) (Text.units key) (worldOf driver s natives host)
      text (worldOf driver (s.grown new) natives host) := by
  obtain ⟨found, u, hhas, hget, hu⟩ := look_of_quiet h
  have hlook := lookedUp_of_done handler natives host hhas hget
  by_cases hmissing : u = .undefined ∨ u = .null
  · refine ⟨none, [], ?_⟩
    rw [State.grown_nil]
    exact .missing rfl hlook hmissing
  · obtain ⟨text, new, hprinted⟩ := exists_printed_of_not_object hu s
    exact ⟨text, new, .printed rfl hlook hmissing hprinted⟩

theorem readAsText_own {text : Units}
    (hkind : ∀ ends calls constructs, (s.heap.lookUp ref).kind ≠ .proxy ends calls constructs)
    (hfind : (s.heap.lookUp ref).find? (.ofUnits (Text.units key)) =
      some (.hidden (.string text))) :
    ReadAsText handler (.object ref) (Text.units key) (worldOf driver s natives host)
      (some (Text.pairUnitsLossy text)) (worldOf driver s natives host) := by
  have hprint : Run.toText (.string text) s = .done s (.ok text) := rfl
  exact .printed rfl (lookedUp_of_done handler natives host (has_own hkind hfind)
    (get_own hkind hfind rfl)) (by simp)
    (.text (congrArg (Act.drive handler · (worldOf driver s natives host))
      (driver.drive_ok hprint)))

theorem thrownAs_typeError (driver : Driver) (handler : Handler (scriptMachineBy driver) κ ω)
    (s : State) (natives : Array κ) (host : ω) (message : String) (lines : List String) :
    ∃ trace, ThrownAs handler ⟨.value (.object s.next), lines⟩
      (worldOf driver (s.grown [typeErrorObject message]) natives host) (.object s.next)
      (worldOf driver (s.grown [tracedError message trace]) natives host) := by
  let failure : Failure := ⟨.value (.object s.next), lines⟩
  let made : State := s.grown [typeErrorObject message]
  let trace : Units := (scriptMachineBy driver).traceText made failure
  have hmarked : Marked trace made (.object s.next) (s.grown [tracedError message trace]) :=
    .of_new rfl rfl rfl
  exact ⟨trace, thrownAs_of_marked (.value _) hmarked⟩

/-- **The error is reported, and nothing but new objects comes of it**,
if its name is read in quiet. -/
theorem exists_classified_typeError (handler : Handler (scriptMachineBy driver) κ ω)
    (natives : Array κ) (host : ω) (message : String) (trace : Units)
    (hin : ∀ last, s.heap.OnChain Intrinsic.typeErrorPrototype.ref last → last < s.next)
    (hquiet : s.heap.Quiet (.ofUnits (Text.units "name")) Intrinsic.typeErrorPrototype.ref) :
    ∃ e new, Classified handler (.object s.next)
    (worldOf driver (s.grown [tracedError message trace]) natives host)
      e (worldOf driver (s.grown (tracedError message trace :: new)) natives host) := by
  have hproxy (ends : Option (Ref × Ref)) (calls constructs : Bool) :
      (tracedError message trace).kind ≠ .proxy ends calls constructs := Kind.noConfusion
  -- The error has no name of its own, so the search goes on to the prototype, which is as it was.
  have hsearch :
      (s.grown [tracedError message trace]).heap.search (.ofUnits (Text.units "name")) s.next =
      s.heap.search (.ofUnits (Text.units "name")) Intrinsic.typeErrorPrototype.ref :=
    search_next hin hproxy rfl rfl (find?_tracedError_name message trace)
  have hquiet : (s.grown [tracedError message trace]).heap.Quiet
      (.ofUnits (Text.units "name")) s.next := by
    unfold Heap.Quiet
    rwa [hsearch]
  obtain ⟨name, new, hname⟩ := exists_readAsText_of_quiet handler natives host hquiet
  rw [State.grown_grown, List.singleton_append] at hname
  have hown {key : String} {text : Units}
    (hfind : (tracedError message trace).find? (.ofUnits (Text.units key)) =
      some (.hidden (.string text))) : ReadAsText handler (.object s.next) (Text.units key)
        (worldOf driver (s.grown (tracedError message trace :: new)) natives host)
        (some (Text.pairUnitsLossy text))
        (worldOf driver (s.grown (tracedError message trace :: new)) natives host) := by
    refine readAsText_own ?_ ?_
    · rw [State.lookUp_next]
      exact hproxy
    · rw [State.lookUp_next]
      exact hfind
  obtain ⟨e, he⟩ := exists_reported name (Text.pairUnitsLossy (Text.units message))
    (some (Text.pairUnitsLossy trace))
  exact ⟨e, new, .intro hname (hown (find?_tracedError_message message trace))
    (hown (find?_tracedError_stack message trace)) (.own _) he⟩

end

/-! ## On the stack -/

section

open Script Stacked Crossing

/-- A type error that is on top is taken off and reported. -/
theorem exists_classify_typeError {driver : Driver} {δ : Type} {s : State}
    (handler : Handler (scriptMachineBy driver) BoundFunction (HostState δ))
    (natives : Array BoundFunction)
    (host : HostState δ) (slots : Array ScriptValue) (message : String) (trace : Units)
    (hin : ∀ last, s.heap.OnChain Intrinsic.typeErrorPrototype.ref last → last < s.next)
    (hquiet : s.heap.Quiet (.ofUnits (Text.units "name")) Intrinsic.typeErrorPrototype.ref) :
    ∃ e new, (classify .thrown : Crossing (scriptMachineBy driver) δ Error Unit) handler
        ⟨worldOf driver (s.grown [tracedError message trace]) natives host, slots.push
          (.object s.next), none⟩ =
      .error e ⟨worldOf driver (s.grown (tracedError message trace :: new)) natives host,
        slots, none⟩ := by
  obtain ⟨e, new, hclassified⟩ :=
    exists_classified_typeError handler natives host message trace hin hquiet
  obtain ⟨s', hclassify, hmoves⟩ : ∃ s',
    (classify .thrown : Crossing (scriptMachineBy driver) δ Error Unit) handler
      ⟨worldOf driver (s.grown [tracedError message trace]) natives host, slots.push
        (.object s.next), none⟩ =
        .error e s' ∧ Session.MovesTo _ _ s' := classify_of_classified rfl hclassified
  obtain ⟨w, slots, poison⟩ := s'
  obtain rfl : w = _ := hmoves.world
  obtain rfl : slots = _ := hmoves.unchanged rfl
  obtain rfl : poison = none := hmoves.poison
  exact ⟨e, new, hclassify⟩

end

end ScriptHost
