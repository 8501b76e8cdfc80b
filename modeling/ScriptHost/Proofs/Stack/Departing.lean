import ScriptHost.Proofs.Crossing.Calling
import ScriptHost.Proofs.Crossing.LookUp
import ScriptHost.Proofs.Stack.Balance

/-!
# Why a primitive throws

A primitive throws because an operation of the machine has failed that it runs, and then it leaves
what that failure is thrown as.  There is one other reason, a call of what is not a function.  That
does not get as far as the machine, and the error is the host's own.

* `FailsBy`: the failure, and the world in which it was met;
* `Relays`: a program that throws for no other reason, closed under sequences;
* `Uncallable`: the other reason;
* `thrown_iff`: **when a primitive throws, and what is there then**.
-/

namespace ScriptHost

variable {M : Machine} {κ ω ε α β : Type}

namespace Stacked

variable {handler : Handler M κ ω} {s s' t : Session M κ ω} {failure : Failure} {w : World M κ ω}

/-- The program comes to an operation of the machine that ends with this failure,
in the world `w`. -/
inductive FailsBy (handler : Handler M κ ω) (x : Stacked M κ ω EngineError α) (s : Session M κ ω)
    (failure : Failure) (w : World M κ ω) : Prop
  | intro {β : Type} {f : M.State → Act M.State β} {t : Session M κ ω} (hf : M.IsRun f)
    (hrun : RunsInto handler (Stack.perform f) t x s)
    (hend : (f t.world.machine).drive handler t.world = .ended (.error failure) w)

theorem FailsBy.first {x : Stacked M κ ω EngineError α} {f : α → Stacked M κ ω EngineError β}
    (h : x.FailsBy handler s failure w) : (x >>= f).FailsBy handler s failure w := by
  obtain ⟨hf, hrun, hend⟩ := h
  exact ⟨hf, .first hrun, hend⟩

theorem FailsBy.second {x : Stacked M κ ω EngineError α} {f : α → Stacked M κ ω EngineError β}
    {a : α} (hx : x handler s = .ok a s') (h : (f a).FailsBy handler s' failure w) :
    (x >>= f).FailsBy handler s failure w := by
  obtain ⟨hf, hrun, hend⟩ := h
  exact ⟨hf, .second hx hrun, hend⟩

/-- A step that does not end keeps the program from ending. -/
theorem RunsInto.ends_step {x : Stacked M κ ω ε α} {y : Stacked M κ ω ε β}
    (h : RunsInto handler y t x s) (hx : x.ends handler (fun _ _ => True) (fun _ _ => True) s) :
    y.ends handler (fun _ _ => True) (fun _ _ => True) t := by
  induction h with
  | here => exact hx
  | first _ ih =>
    rw [ends_bind] at hx
    exact ih (ends_mono hx (fun _ _ _ => trivial) fun _ _ _ => trivial)
  | second hrun _ ih =>
    unfold ends at hx
    rw [bind_eq_of_ok hrun] at hx
    exact ih hx

/-! ## Programs that throw for no other reason -/

/-- If the program throws, an operation of the machine has failed. -/
def Relays (x : Stacked M κ ω EngineError α) : Prop := ∀ handler s s',
  x handler s = .error .thrown s' → ∃ failure w, x.FailsBy handler s failure w

theorem Takes.relays {n : Nat} {x : Stacked M κ ω EngineError α} (hx : x.Takes n) : x.Relays := by
  intro handler s s' h
  rcases hx handler s with ⟨-, a, hok⟩ | ⟨reason, hfatal⟩
  · cases hok.symm.trans h
  · cases hfatal.symm.trans h

theorem relays_pure (a : α) : (pure a : Stacked M κ ω EngineError α).Relays := (takes_pure a).relays

theorem Relays.bind {x : Stacked M κ ω EngineError α} {f : α → Stacked M κ ω EngineError β}
    (hx : x.Relays) (hf : ∀ a, (f a).Relays) : (x >>= f).Relays := by
  intro handler s s' h
  cases hrun : x handler s with
  | ok a t =>
    rw [bind_eq_of_ok hrun] at h
    obtain ⟨failure, w, hfails⟩ := hf a handler t s' h
    exact ⟨failure, w, hfails.second hrun⟩
  | error e t =>
    rw [bind_eq_of_error hrun] at h
    cases h
    obtain ⟨failure, w, hfails⟩ := hx handler s _ hrun
    exact ⟨failure, w, hfails.first⟩
  | panicked payload w => cases (bind_eq_of_panicked hrun).symm.trans h
  | exhausted =>
    rw [bind_apply, hrun] at h
    cases h

end Stacked

namespace Stack

open Stacked

variable {handler : Handler M κ ω} {s s' t : Session M κ ω} {failure : Failure} {w : World M κ ω}

theorem relays_perform {f : M.State → Act M.State α} (hf : M.IsRun f) :
    (perform f : Stacked M κ ω EngineError α).Relays := by
  intro handler s s' h
  cases hend : (f s.world.machine).drive handler s.world with
  | ended result w =>
    cases result with
    | ok a => cases (perform_of_ok hend).symm.trans h
    | error failure => exact ⟨failure, w, hf, .here, hend⟩
  | panicked payload w =>
    simp only [perform, bind_apply, act, hend] at h
    cases h
  | exhausted =>
    simp only [perform, bind_apply, act, hend] at h
    cases h

theorem relays_pushValue (v : ScriptValue) :
    (pushValue v : Stacked M κ ω EngineError Unit).Relays := by
  intro handler s s' h
  cases h

theorem relays_enumerableKeys (ref : Ref) : ∀ keys : List Units,
    (enumerableKeys ref keys : Stacked M κ ω EngineError (List (List UInt8))).Relays
  | [] => relays_pure _
  | _ :: keys => (relays_perform (.isEnumerable _ _)).bind fun _ =>
      (relays_enumerableKeys ref keys).bind fun _ => relays_pure _

/-! ## The call of what is not a function -/

theorem failsBy_callTaken {ref : Ref} {this : ScriptValue} {args : List ScriptValue}
    (hshape : M.shape s.world.machine ref = .function)
    (h : (perform (M.call ref this args) >>= fun v => pushValue v).FailsBy handler s failure w) :
    (callTaken (.object ref) this args).FailsBy handler s failure w := by
  unfold callTaken
  refine .second (a := some ref) ?_ h
  simp only [Stacked.read, hshape, if_true]

theorem exists_failsBy_callTaken {ref : Ref} {this : ScriptValue} {args : List ScriptValue}
    (hshape : M.shape s.world.machine ref = .function)
    (h : callTaken (.object ref) this args handler s = .error .thrown s') :
    ∃ failure w, (callTaken (.object ref) this args).FailsBy handler s failure w := by
  have hcall : M.IsRun (M.call ref this args) := .call ref this args
  have hcalled : callTaken (.object ref) this args handler s =
      (perform (M.call ref this args) >>= fun v => pushValue v) handler s := by
    unfold callTaken
    simp only [Stacked.read, bind_apply, hshape, if_true]
  obtain ⟨failure, w, hfails⟩ :=
    (relays_perform hcall).bind relays_pushValue handler s s' (hcalled.symm.trans h)
  exact ⟨failure, w, failsBy_callTaken hshape hfails⟩

theorem failsBy_callMethod {below args : Array ScriptValue} {function this : ScriptValue}
    (hslots : s.slots = (below.push function).push this ++ args)
    (h : (callTaken function this args.toList).FailsBy handler { s with slots :=
  below } failure w) :
    (callMethod args.size).FailsBy handler s failure w := by
  rw [callMethod_eq]
  exact h.second (takeCall_of_append hslots)

/-- Anything else is not, and the type error is new. -/
theorem callTaken_of_not_function {function this : ScriptValue} {args : List ScriptValue}
    (hnot : ∀ ref, function = .object ref → M.shape s.world.machine ref ≠ .function) :
    callTaken function this args handler s = .error .thrown
      ⟨{ s.world with
          machine := (M.newError .typeError (Text.units "not callable") s.world.machine).2 },
        s.slots.push
          (.object (M.newError .typeError (Text.units "not callable") s.world.machine).1),
        s.poison⟩ := by
  cases function with
  | object ref =>
    unfold callTaken
    simp only [Stacked.read, bind_apply, if_neg (hnot ref rfl)]
    rfl
  | _ => rfl

/-- What a primitive leaves that is to call what is not a function:
a type error on what is below. -/
inductive Uncallable (s : Session M κ ω) : Fallible → Session M κ ω → Prop
  | intro {below args : Array ScriptValue} {function this : ScriptValue}
    (hslots : s.slots = (below.push function).push this ++ args)
    (hnot : ∀ ref, function = .object ref → M.shape s.world.machine ref ≠ .function) :
    Uncallable s (.callMethod args.size)
      ⟨{ s.world with
          machine := (M.newError .typeError (Text.units "not callable") s.world.machine).2 },
        below.push
          (.object (M.newError .typeError (Text.units "not callable") s.world.machine).1),
        s.poison⟩

theorem exists_called {a : Array ScriptValue} {count : Nat} (h : count + 2 ≤ a.size) :
    ∃ (below args : Array ScriptValue) (function this : ScriptValue),
      a = (below.push function).push this ++ args ∧ args.size = count := by
  have hsize : (a.take (a.size - count)).size = a.size - count := by simp
  have hreceiver : (a.take (a.size - count)).size ≠ 0 := by omega
  obtain ⟨b, this, hb⟩ := Array.eq_push_of_size_ne_zero hreceiver
  have hfunction : b.size ≠ 0 := by
    rw [hb, Array.size_push] at hsize
    omega
  obtain ⟨below, function, rfl⟩ := Array.eq_push_of_size_ne_zero hfunction
  refine ⟨below, a.drop (a.size - count), function, this, ?_, ?_⟩
  · rw [← hb]
    simp
  · simp
    omega

/-! ## The law -/

theorem ThrownAs.unique {v v' : ScriptValue} {w₁ w₂ : World M κ ω}
    (h : ThrownAs handler failure w v w₁) (h' : ThrownAs handler failure w v' w₂) :
    v = v' ∧ w₁ = w₂ := by
  let s : Session M κ ω := ⟨w, #[], none⟩
  have hraise : (raise failure : Stacked M κ ω EngineError Unit) handler s = _ :=
    raise_of_thrownAs h
  have hraise' : (raise failure : Stacked M κ ω EngineError Unit) handler s = _ :=
    raise_of_thrownAs h'
  cases hraise.symm.trans hraise'
  exact ⟨rfl, rfl⟩

namespace Fallible

/-- What is there when an operation has failed that the primitive runs. -/
theorem thrown_of_failsBy {p : Fallible} {v : ScriptValue} {w' : World M κ ω}
    (h : p.program.FailsBy handler s failure w) (hthrown : ThrownAs handler failure w v w') :
    p.program handler s =
      .error .thrown ⟨w', (s.slots.take (s.slots.size - p.pops)).push v, s.poison⟩ := by
  obtain ⟨hf, hrun, hend⟩ := h
  have hfailed := hrun.eq_error (perform_of_thrownAs hend hthrown)
  have hbalance := p.balanced handler s
  unfold wp at hbalance
  rw [hfailed] at hbalance
  obtain ⟨-, hpoison, -, v', -, hslots⟩ := hbalance
  obtain ⟨-, hbelow⟩ := Array.push_eq_push.mp hslots
  rw [hfailed, ← hbelow, ← hpoison]

theorem thrown_of_uncallable {p : Fallible} (h : Uncallable s p s') :
    p.program handler s = .error .thrown s' := by
  obtain @⟨below, args, function, this, hslots, hnot⟩ := h
  show Stack.callMethod args.size handler s = _
  rw [callMethod_eq, bind_eq_of_ok (takeCall_of_append hslots)]
  exact callTaken_of_not_function hnot

/-- All primitives but one throw for no other reason than that the machine has failed. -/
theorem relays (p : Fallible) (hp : ∀ count, p ≠ callMethod count) :
    (p.program : Stacked M κ ω EngineError p.Answer).Relays := by
  cases p with
  | pop => exact takes_takeTop.relays.bind fun _ => relays_pure _
  | dup index => exact (takes_slot index).relays.bind relays_pushValue
  | append index =>
    exact (takes_arrayAt index).relays.bind fun ref =>
      takes_takeTop.relays.bind fun v => relays_perform (.append ref v)
  | putProp index key =>
    exact (takes_objectAt index).relays.bind fun ref =>
      takes_takeTop.relays.bind fun v => relays_perform (.define ref _ v)
  | putGlobal name => exact takes_takeTop.relays.bind fun v => relays_perform (.setGlobal _ v)
  | arrayLength index =>
    exact (takes_arrayAt index).relays.bind fun ref => relays_perform (.length ref)
  | ownKeys index =>
    exact (takes_objectAt index).relays.bind fun ref =>
      (relays_perform (.keys ref)).bind (relays_enumerableKeys ref)
  | getIndex index element =>
    exact (takes_objectAt index).relays.bind fun ref =>
      (relays_perform (.element ref element)).bind relays_pushValue
  | getProp index key =>
    exact (takes_slot index).relays.bind fun base =>
      (relays_perform (.toObject base)).bind fun ref =>
          (relays_perform (.has ref _)).bind fun found =>
      (relays_perform (.get ref _)).bind fun v => (relays_pushValue v).bind fun _ =>
        relays_pure found
  | runSource source filename => exact (relays_perform (.run source filename)).bind relays_pushValue
  | callMethod count => exact absurd rfl (hp count)

/-- A call throws because the machine has failed, or because there is nothing to be called. -/
theorem callMethod_thrown {count : Nat}
    (h : (callMethod count).program handler s = .error .thrown s') :
    (∃ failure w, (callMethod count).program.FailsBy handler s failure w) ∨
      Uncallable s (callMethod count) s' := by
  change Stack.callMethod count handler s = _ at h
  rcases takes_takeCall count handler s with ⟨henough, -⟩ | ⟨reason, hfatal⟩
  · obtain ⟨below, args, function, this, hslots, rfl⟩ := exists_called henough
    by_cases hcallee : ∃ ref, function = .object ref ∧ M.shape s.world.machine ref = .function
    · obtain ⟨ref, rfl, hshape⟩ := hcallee
      rw [callMethod_eq, bind_eq_of_ok (takeCall_of_append hslots)] at h
      obtain ⟨failure, w, hfails⟩ :=
        exists_failsBy_callTaken (s := { s with slots := below }) hshape h
      exact .inl ⟨failure, w, failsBy_callMethod hslots hfails⟩
    · refine .inr ?_
      have huncallable := Uncallable.intro hslots fun ref hfunction hshape =>
        hcallee ⟨ref, hfunction, hshape⟩
      have hthrown : Stack.callMethod args.size handler s = _ := thrown_of_uncallable huncallable
      cases h.symm.trans hthrown
      exact huncallable
  · rw [callMethod_eq, bind_eq_of_error hfatal] at h
    cases h

/-- **When a primitive throws, and what is there then.**  An operation of the machine has failed,
and on what is left of the stack there is what that failure is thrown as; or what was to be called
is not a function. -/
theorem thrown_iff (p : Fallible) (handler : Handler M κ ω) (s s' : Session M κ ω) :
    p.program handler s = .error .thrown s' ↔
      (∃ failure w v w', p.program.FailsBy handler s failure w ∧ ThrownAs handler failure w v w' ∧
        s' = ⟨w', (s.slots.take (s.slots.size - p.pops)).push v, s.poison⟩) ∨
      Uncallable s p s' := by
  constructor
  · intro h
    have hreason : (∃ failure w, p.program.FailsBy handler s failure w) ∨ Uncallable s p s' := by
      by_cases hp : ∃ count, p = callMethod count
      · obtain ⟨count, rfl⟩ := hp
        exact callMethod_thrown h
      · exact .inl (p.relays (fun count hcount => hp ⟨count, hcount⟩) handler s s' h)
    refine hreason.imp_left fun ⟨failure, w, hfails⟩ => ?_
    have hends : p.program.ends handler (fun _ _ => True) (fun _ _ => True) s := by
      unfold ends
      rw [h]
      trivial
    obtain ⟨hf, hrun, hend⟩ := id hfails
    rcases answered_or_thrown (hrun.ends_step hends) with
      ⟨_, _, hok, -⟩ | ⟨_, v, _, w', herror, hthrown⟩
    · cases hend.symm.trans hok
    · cases hend.symm.trans herror
      have hleft := thrown_of_failsBy hfails hthrown
      rw [h] at hleft
      cases hleft
      exact ⟨failure, w, v, w', hfails, hthrown, rfl⟩
  · rintro (⟨failure, w, v, w', hfails, hthrown, rfl⟩ | huncallable)
    · exact thrown_of_failsBy hfails hthrown
    · exact thrown_of_uncallable huncallable

end Fallible

end Stack

end ScriptHost
