import ScriptHost.Proofs.Script.Assigning
import ScriptHost.Proofs.Stack.Departing

/-!
# How the script machine throws a failure

A value that no script has caught is thrown as it is.  The one thing that may be done to it is to
give it a trace, and only an error object takes one, if it has none of its own and can be extended.
A limit of the machine is no value, and a new range error stands for it.

* `Stands`: the value of a failure; `TakesTrace`, `Marked`: what becomes of it;
* `MarksOnly`, `Marked.marksOnly`: all that can differ afterwards; `Marked.keeps`:
  a trace that is kept;
* `thrownAs_iff`: **the failure is thrown as that value, and nothing else happens**.
-/

namespace ScriptHost

open Stack Stacked

namespace Script

variable {s t : State} {ref : Ref} {k : Key} {v : ScriptValue} {trace : Units} {o : Object}

/-! ## The trace -/

/-- The key of the trace. -/
def stackKey : Key := .ofUnits (Text.units "stack")

/-- The object takes a trace: it is an error object, can be extended, and has no trace of its own.
A proxy of an error is no error object. -/
structure TakesTrace (s : State) (ref : Ref) : Prop where
  error : isErrorObject s ref = true
  extensible : (s.heap.lookUp ref).extensible = true
  traceless : (s.heap.lookUp ref).find? stackKey = none

/-- The value and the state in which it stands for what has ended the run.  Nothing is made for a
value that was thrown. -/
inductive Stands (s : State) : Cause → ScriptValue → State → Prop
  | value (v : ScriptValue) : Stands s (.value v) v s
  | limit (message : String) : Stands s (.limit message) (.object s.next)
      (s.grown [Run.errorObject .rangeError (Text.units message) none])

/-- The trace is recorded on the value, if that takes it. -/
inductive Marked (trace : Units) (s : State) : ScriptValue → State → Prop
  | recorded {ref : Ref} (h : TakesTrace s ref) : Marked trace s (.object ref)
      (s.replaced ref ((s.heap.lookUp ref).put stackKey (.hidden (.string trace))))
  | untouched {v : ScriptValue} (h : ∀ ref, v = .object ref → ¬ TakesTrace s ref) :
      Marked trace s v s

/-- The two states differ in nothing but the trace that the value has of its own in the second one,
and not in that either if it does not take it. -/
structure MarksOnly (trace : Units) (s : State) (v : ScriptValue) (t : State) : Prop where
  untouched : (∀ ref, v = .object ref → ¬ TakesTrace s ref) → t = s
  recorded : ∀ ref, v = .object ref → TakesTrace s ref →
    (t.heap.lookUp ref).find? stackKey = some ⟨.data (.string trace) true, false, true⟩
  beside : t = { s with heap := t.heap }
  next : t.next = s.next
  others : ∀ ref, v ≠ .object ref → t.heap.lookUp ref = s.heap.lookUp ref
  kind : ∀ ref, (t.heap.lookUp ref).kind = (s.heap.lookUp ref).kind
  proto : ∀ ref, (t.heap.lookUp ref).proto = (s.heap.lookUp ref).proto
  extensible : ∀ ref, (t.heap.lookUp ref).extensible = (s.heap.lookUp ref).extensible
  keys : ∀ ref k, k ≠ stackKey → (t.heap.lookUp ref).find? k = (s.heap.lookUp ref).find? k

theorem exists_kind_of_isErrorObject (h : isErrorObject s ref = true) :
    ∃ origin, (s.heap.lookUp ref).kind = .error origin := by
  unfold isErrorObject at h
  split at h
  · exact ⟨_, ‹_›⟩
  · cases h

theorem lt_next_of_isErrorObject (h : isErrorObject s ref = true) : ref < s.next := by
  obtain ⟨origin, hkind⟩ := exists_kind_of_isErrorObject h
  exact lt_next_of_kind (by rw [hkind]; exact Kind.noConfusion)

theorem exists_stands (s : State) (cause : Cause) : ∃ v made, Stands s cause v made := by
  cases cause with
  | value v => exact ⟨v, s, .value v⟩
  | limit message => exact ⟨_, _, .limit message⟩

theorem exists_marked (trace : Units) (s : State) (v : ScriptValue) : ∃ t, Marked trace s v t := by
  by_cases h : ∃ ref, v = .object ref ∧ TakesTrace s ref
  · obtain ⟨ref, rfl, htakes⟩ := h
    exact ⟨_, .recorded htakes⟩
  · exact ⟨s, .untouched fun ref hv htakes => h ⟨ref, hv, htakes⟩⟩

/-- **Nothing but the trace is changed.** -/
theorem Marked.marksOnly (h : Marked trace s v t) : MarksOnly trace s v t := by
  cases h with
  | untouched h =>
    exact ⟨fun _ => rfl, fun ref hv htakes => absurd htakes (h ref hv), rfl, rfl, fun _ _ => rfl,
      fun _ => rfl, fun _ => rfl, fun _ => rfl, fun _ _ _ => rfl⟩
  | @recorded ref htakes =>
    have hlt := lt_next_of_isErrorObject htakes.error
    obtain ⟨origin, hkind⟩ := exists_kind_of_isErrorObject htakes.error
    have hfind (k : Key) := Object.find?_put (o := s.heap.lookUp ref) (k := stackKey)
      (by simp [hkind]) k (.hidden (.string trace))
    refine ⟨fun h => absurd htakes (h ref rfl), ?_, rfl, next_replaced s ref _, ?_,
      lookUp_replaced_congr Object.kind hlt (Object.kind_put _ _ _),
      lookUp_replaced_congr Object.proto hlt (Object.proto_put _ _ _),
      lookUp_replaced_congr Object.extensible hlt (Object.extensible_put _ _ _), ?_⟩
    · rintro _ ⟨rfl⟩ -
      rw [lookUp_replaced hlt, hfind, if_pos rfl]
      rfl
    · exact fun other hother => lookUp_replaced_of_ne (Ne.symm fun h => hother (congrArg _ h)) _
    · intro other k hk
      refine lookUp_replaced_congr (Object.find? · k) hlt ?_ other
      rw [hfind, if_neg (Ne.symm hk)]

theorem Marked.keeps {p : Property} (h : Marked trace s v t)
    (hown : (s.heap.lookUp ref).find? stackKey = some p) :
    (t.heap.lookUp ref).find? stackKey = some p := by
  cases h with
  | untouched => exact hown
  | @recorded place htakes =>
    have hother : ref ≠ place := by
      rintro rfl
      cases hown.symm.trans htakes.traceless
    rwa [lookUp_replaced_of_ne hother]

/-- What becomes of the value is settled. -/
theorem Marked.unique {t' : State} (h : Marked trace s v t)
    (h' : Marked trace s v t') : t = t' := by
  cases h with
  | recorded htakes =>
    cases h' with
    | recorded => rfl
    | untouched h' => exact absurd htakes (h' _ rfl)
  | untouched h =>
    cases h' with
    | recorded htakes => exact absurd htakes (h _ rfl)
    | untouched => rfl

theorem Marked.of_new {origin : Option Origin} (hkind : o.kind = .error origin)
    (hextensible : o.extensible = true) (htraceless : o.find? stackKey = none) :
    Marked trace (s.grown [o]) (.object s.next)
      (s.grown [o.put stackKey (.hidden (.string trace))]) := by
  have hnew := s.lookUp_next o []
  have htakes : TakesTrace (s.grown [o]) s.next := by
    refine ⟨?_, (congrArg Object.extensible hnew).trans hextensible,
      (congrArg (Object.find? · stackKey) hnew).trans htraceless⟩
    rw [isErrorObject, hnew, hkind]
  have hmarked : Marked trace (s.grown [o]) (.object s.next) _ := .recorded htakes
  rwa [hnew, State.replaced, State.replace_next] at hmarked

/-! ## How it comes to be recorded -/

section

variable (herror : isErrorObject s ref = true)
include herror

theorem hasOwn_of_isErrorObject :
    Run.hasOwn ref k s = .done s (.ok ((s.heap.lookUp ref).find? k).isSome) := by
  obtain ⟨origin, hkind⟩ := exists_kind_of_isErrorObject herror
  have hget : Run.getOwn ref k s = .done s (.ok ((s.heap.lookUp ref).find? k)) :=
    getOwn_of_not_proxy (Object.DefinesPlainly.of_error hkind k).proxy k
  simp only [Run.hasOwn, bind, Run.bind, hget, pure, Run.pure]

/-- To define the trace of an object that has none is to record it. -/
theorem defineWith_of_marked (htraceless : (s.heap.lookUp ref).find? stackKey = none)
    (h : Marked trace s (.object ref) t) : ∃ taken,
    Run.defineWith Run.proxyOps ref stackKey (.ofProperty (.hidden (.string trace))) s =
      .done t (.ok taken) := by
  obtain ⟨origin, hkind⟩ := exists_kind_of_isErrorObject herror
  have hplain := Object.DefinesPlainly.of_error hkind stackKey
  have hdefine : (s.heap.lookUp ref).define? stackKey (.ofProperty (.hidden (.string trace))) =
      if (s.heap.lookUp ref).extensible then
        some ((s.heap.lookUp ref).put stackKey (.hidden (.string trace)))
      else none := by
    simp only [Object.define?, hkind, Object.definePlain?, htraceless]
    rfl
  cases h with
  | recorded htakes =>
    exact ⟨true, define_of_define? hplain (hdefine.trans (if_pos htakes.extensible))⟩
  | untouched h =>
    have hclosed : ¬ (s.heap.lookUp ref).extensible = true := fun hextensible =>
      h ref rfl ⟨herror, hextensible, htraceless⟩
    exact ⟨false, define_refused hplain (hdefine.trans (if_neg hclosed))⟩

theorem defineHidden_of_marked (driver : Driver)
    (htraceless : (s.heap.lookUp ref).find? stackKey = none) (h : Marked trace s (.object ref) t) :
    (scriptMachineBy driver).defineHidden ref (Text.units "stack") (.string trace) s =
      .done t (.ok ()) := by
  obtain ⟨taken, hdefine⟩ := defineWith_of_marked herror htraceless h
  have hran : (do
      let _ ← Run.defineWith Run.proxyOps ref stackKey (.ofProperty (.hidden (.string trace)))
      pure () : Run Unit) s = .done t (.ok ()) := by
    simp only [bind, Run.bind, hdefine, pure, Run.pure]
  exact driver.drive_of_frames hran (by rw [h.marksOnly.beside])

end

end Script

/-! ## How a failure is thrown -/

section

open Script

variable {driver : Driver} {κ ω : Type} {handler : Handler (scriptMachineBy driver) κ ω} {ref : Ref}
  {v : ScriptValue} {failure : Failure} {w w' : World (scriptMachineBy driver) κ ω} {made t : State}

theorem stands_iff : Stands w.machine failure.cause v made ↔
    thrownIn failure w = (v, { w with machine := made }) := by
  obtain ⟨machine, natives, host⟩ := w
  cases hcause : failure.cause with
  | value u =>
    simp only [thrownIn, hcause]
    constructor
    · rintro ⟨⟩
      rfl
    · rintro ⟨⟩
      exact .value _
  | limit message =>
    have hnew : (scriptMachineBy driver).newError .rangeError (Text.units message) machine = _ :=
      State.store_eq machine _
    simp only [thrownIn, hcause, hnew]
    constructor
    · rintro ⟨⟩
      rfl
    · rintro ⟨⟩
      exact .limit _

/-- The trace of an error object is recorded where it is taken. -/
theorem traced_of_marked (herror : isErrorObject w.machine ref = true)
    (h : Marked ((scriptMachineBy driver).traceText w.machine failure) w.machine (.object ref) t) :
    Traced handler failure ref w { w with machine := t } := by
  have hasked :
      ((scriptMachineBy driver).hasOwn ref (Text.units "stack") w.machine).drive handler w =
      .ended (.ok (((State.heap w.machine).lookUp ref).find? stackKey).isSome) w :=
    congrArg (Act.drive handler · w) (driver.drive_ok (hasOwn_of_isErrorObject herror))
  cases htraceless : ((State.heap w.machine).lookUp ref).find? stackKey with
  | some p =>
    have hkept : t = w.machine := by
      cases h with
      | recorded htakes => cases htraceless.symm.trans htakes.traceless
      | untouched => rfl
    subst hkept
    exact .kept hasked (by simp [htraceless])
  | none =>
    rw [htraceless] at hasked
    exact .recorded hasked
      (congrArg (Act.drive handler · w) (defineHidden_of_marked herror driver htraceless h))

theorem thrownAs_of_marked (hstands : Stands w.machine failure.cause v made)
    (h : Marked ((scriptMachineBy driver).traceText made failure) made v t) :
    ThrownAs handler failure w v { w with machine := t } := by
  have hthrown := stands_iff.mp hstands
  by_cases herror : ∃ ref, v = .object ref ∧ isErrorObject made ref = true
  · obtain ⟨ref, rfl, herror⟩ := herror
    have htraced : Traced handler failure ref { w with machine := made } { w with machine := t } :=
      traced_of_marked herror h
    refine .traced (congrArg Prod.fst hthrown) ?_ ?_
    · rw [hthrown]
      exact herror
    · rw [hthrown]
      exact htraced
  · have hplain (ref : Ref) (hv : v = .object ref) : isErrorObject made ref = false :=
      eq_false_of_ne_true fun h => herror ⟨ref, hv, h⟩
    cases h with
    | recorded htakes => cases (hplain _ rfl).symm.trans htakes.error
    | untouched =>
      have hthrownAs : ThrownAs handler failure w (thrownIn failure w).1
          (thrownIn failure w).2 := by
        refine .plain ?_
        rw [hthrown]
        exact hplain
      rwa [hthrown] at hthrownAs

/-- **How a failure is thrown**: the value that stands for it, and nothing changed but its trace. -/
theorem thrownAs_iff : ThrownAs handler failure w v w' ↔ ∃ made t,
    Stands w.machine failure.cause v made ∧
    Marked ((scriptMachineBy driver).traceText made failure) made v t ∧
    w' = { w with machine := t } := by
  constructor
  · intro h
    obtain ⟨v', made, hstands⟩ := exists_stands w.machine failure.cause
    obtain ⟨t, hmarked⟩ := exists_marked ((scriptMachineBy driver).traceText made failure) made v'
    obtain ⟨rfl, rfl⟩ := h.unique (thrownAs_of_marked hstands hmarked)
    exact ⟨made, t, hstands, hmarked, rfl⟩
  · rintro ⟨made, t, hstands, hmarked, rfl⟩
    exact thrownAs_of_marked hstands hmarked

end

end ScriptHost
