import Mathlib.Logic.Relation
import ScriptHost.Proofs.Context.Fatal
import ScriptHost.Proofs.Crossing.Callback
import ScriptHost.Proofs.Machine.Blank
import ScriptHost.Proofs.Stack.Nesting

/-!
# What script cannot do to a context

A context whose machine does not break down, whose host functions do not panic and which nobody
aborts on purpose stays valid for good.  No stack is ever poisoned, neither that of the engine nor
that of a host function called by script: on every path, each slot that the code counts on is there
and holds what it must.

* `resolve_spec`, `callWith_spec`: paths and calls;
* `Runs.restoring_spec`: the program of any operation;
* `survives`: **no script and no argument can kill a context.**
-/

namespace ScriptHost

open Stack Stacked Crossing

variable {M : Machine} {δ α : Type}

/-- The run ended without a panic and on a stack that is not poisoned, and did not fail for good. -/
def Outcome.Clean {κ ω ε : Type} (fatal : ε → Bool) : Outcome M κ ω ε α → Prop
  | .ok _ s => s.poison = none
  | .error e s => s.poison = none ∧ fatal e = false
  | .panicked .. => False
  | .exhausted => True

theorem Stacked.clean_of_wp {κ ω ε : Type} {fatal : ε → Bool} {x : Stacked M κ ω ε α}
    {handler : Handler M κ ω} {s : Session M κ ω} {Q : Post M κ ω ε α} (h : x.wp handler Q s)
    (hok : ∀ a s', Q.ok a s' → s'.poison = none)
    (herror : ∀ e s', Q.error e s' → s'.poison = none ∧ fatal e = false)
    (hpanicked : ∀ payload w, ¬ Q.panicked payload w) : (x handler s).Clean fatal := by
  unfold wp at h
  cases hx : x handler s with
  | ok a s' => rw [hx] at h; exact hok a s' h
  | error e s' => rw [hx] at h; exact herror e s' h
  | panicked payload w => rw [hx] at h; exact hpanicked payload w h
  | exhausted => trivial

namespace Context

variable {handler : Handler M BoundFunction (HostState δ)}
  {broken : Payload → World M BoundFunction (HostState δ) → Prop}
  {s s₁ : Session M BoundFunction (HostState δ)} {a : Array ScriptValue}

/-- Each step along a path leaves one more value. -/
theorem resolveFrom_spec (T : Trust handler broken) (hp : s.poison = none) (keys : List String)
    (ha : 2 ≤ a.size) (hs : s.Becomes a s₁) :
    (resolveFrom keys : Crossing M δ Error Unit).wp handler
      (orFails (s.Extends a) broken fun _ => s.Extends a) s₁ := by
  induction keys generalizing a s₁ with
  | nil => exact extends_of_becomes hs
  | cons key rest ih =>
    unfold resolveFrom
    refine wp_then (depth_spec hs) ?_
    rintro _ s₁ ⟨rfl, hs⟩
    have hi : a.size - 1 < a.size := by omega
    refine wp_then (slotType_spec hs (Array.getElem?_eq_getElem hi)) fun kind s₂ h₂ => ?_
    have hnext : (check (getProp (a.size - 1) (Text.utf8 key)) >>= fun _ => resolveFrom rest :
        Crossing M δ Error Unit).wp handler
          (orFails (s.Extends a) broken fun _ => s.Extends a) s₂ := by
      refine wp_then (check_extends T hp (getProp_spec T h₂.2 hi _)) ?_
      rintro _ s₃ ⟨v, h₃⟩
      refine wp_mono (ih (by simp; omega) h₃) (fun _ _ h => extends_of_push h)
        (fun _ _ h => ⟨h.1, extends_of_push h.2⟩) fun _ _ h => h
    split
    · exact ⟨rfl, extends_of_becomes h₂.2⟩
    · exact hnext

/-- The values along the path are left on top, two of them at least. -/
theorem resolve_spec (T : Trust handler broken) (hp : s.poison = none) {path : PropertyPath}
    (hpath : path.isEmpty = false) (hs : s.Becomes a s₁) :
    (resolve path : Crossing M δ Error Unit).wp handler
      (orFails (s.Extends a) broken fun _ s' => ∃ u v, s.Extends ((a.push u).push v) s') s₁ := by
  unfold resolve
  unfold PropertyPath.isEmpty at hpath
  cases hkeys : path.keys with
  | nil => simp [hkeys] at hpath
  | cons root rest =>
    dsimp only
    refine wp_then (pushGlobal_spec hs) ?_
    rintro _ s₂ ⟨u, h₂⟩
    refine wp_then (depth_spec h₂) ?_
    rintro _ s₂ ⟨rfl, h₂⟩
    rw [Array.size_push, Nat.add_sub_cancel]
    have hi : a.size < (a.push u).size := by simp
    have hget := check_extends T hp (getProp_spec T h₂ hi (Text.utf8 root))
    refine wp_bind_of hget ?_ (fun _ _ h => ⟨h.1, extends_of_push h.2⟩) fun _ _ h => h
    rintro found s₃ ⟨v, h₃⟩
    split
    · exact ⟨rfl, extends_of_push (extends_of_push (extends_of_becomes h₃))⟩
    · refine wp_mono (resolveFrom_spec T hp rest (by simp) h₃) (fun _ _ h => ⟨u, v, h⟩)
        (fun _ _ h => ⟨h.1, extends_of_push (extends_of_push h.2)⟩) fun _ _ h => h

theorem top_of_extends {u : ScriptValue} (h : s.Extends (a.push u) s₁) :
    ∃ b w, s.Becomes (b.push w) s₁ ∧ ∀ {s'}, s.Extends b s' → s.Extends a s' := by
  obtain ⟨more, hm⟩ := h
  by_cases hmore : more.size = 0
  · obtain rfl := Array.eq_empty_of_size_eq_zero hmore
    exact ⟨a, u, by simpa using hm, fun h => h⟩
  · obtain ⟨rest, w, rfl⟩ := Array.eq_push_of_size_ne_zero hmore
    exact ⟨a.push u ++ rest, w, by simpa using hm, fun h => extends_of_push (extends_of_append h)⟩

/-- The arguments are pushed in order, all of them. -/
theorem pushArguments_spec (T : Trust handler broken) (hp : s.poison = none) (m : Marshaller)
    (args : List HostValue) (hs : s.Becomes a s₁) :
    (pushArguments m args : Crossing M δ Error Unit).wp handler
      (orFails (s.Extends a) broken fun _ s' =>
        ∃ more, more.size = args.length ∧ s.Becomes (a ++ more) s') s₁ := by
  induction args generalizing a s₁ with
  | nil => exact ⟨#[], rfl, by simpa using hs⟩
  | cons arg rest ih =>
    unfold pushArguments
    refine wp_bind_of (m.push_spec T hp arg hs) ?_
      (fun _ _ h => ⟨h.1, extends_of_becomes h.2⟩) fun _ _ h => h
    rintro _ s₂ ⟨v, h₂⟩
    refine wp_mono (ih h₂) ?_ (fun _ _ h => ⟨h.1, extends_of_push h.2⟩) fun _ _ h => h
    rintro _ s₃ ⟨more, hsize, h₃⟩
    refine ⟨#[v] ++ more, by simp [hsize]; omega, ?_⟩
    simpa using h₃

/-- The function and the receiver on top are taken off, with whatever came of the call. -/
theorem callWith_spec (T : Trust handler broken) (hp : s.poison = none) (m : Marshaller)
    (args : List HostValue) {u v : ScriptValue} (hs : s.Becomes ((a.push u).push v) s₁) :
    (callWith m args : Crossing M δ Error HostValue).wp handler
      (orFails (s.Extends a) broken fun _ => s.Becomes a) s₁ := by
  unfold callWith
  refine wp_bind_of (pushArguments_spec T hp m args hs) ?_
    (fun _ _ h => ⟨h.1, extends_of_push (extends_of_push h.2)⟩) fun _ _ h => h
  rintro _ s₂ ⟨more, hsize, h₂⟩
  have hdepth : ((a.push u).push v ++ more).size = a.size + 2 + args.length := by
    simp
    omega
  have htake : ((a.push u).push v ++ more).take a.size = a := by
    have hpush : (a.push u).push v ++ more = a ++ (#[u, v] ++ more) := by
      apply Array.ext'
      simp
    rw [hpush, take_append_size]
  have hcall := callMethod_spec T h₂ hdepth
  rw [htake] at hcall
  refine wp_then (check_extends T hp hcall) ?_
  rintro _ s₃ ⟨r, h₃⟩
  exact wp_mono (m.pop_spec T hp h₃) (fun _ _ h => h)
    (fun _ _ h => ⟨h.1, extends_of_becomes h.2⟩) fun _ _ h => h

end Context

namespace Operation

variable {handler : Handler M BoundFunction (HostState δ)}
  {broken : Payload → World M BoundFunction (HostState δ) → Prop}
  {s s₁ : Session M BoundFunction (HostState δ)} {a : Array ScriptValue} {ctx : Context M}
  {op : Operation}

/-- The program of any operation fails without harm, and takes away nothing that was there. -/
theorem Runs.spec (T : Trust handler broken) (hp : s.poison = none)
    {program : Crossing M δ Error op.Value} (hr : Runs ctx op program) (hs : s.Becomes a s₁) :
    program.wp handler (orFails (s.Extends a) broken fun _ => s.Extends a) s₁ := by
  have hpop {s₂ : Session M BoundFunction (HostState δ)} {v : ScriptValue} {b : Array ScriptValue}
      (h₂ : s.Becomes (b.push v) s₂) :
      (ctx.marshaller.pop : Crossing M δ Error HostValue).wp handler
        (orFails (s.Extends b) broken fun _ => s.Extends b) s₂ :=
    wp_mono (ctx.marshaller.pop_spec T hp h₂) (fun _ _ h => extends_of_becomes h)
      (fun _ _ h => ⟨h.1, extends_of_becomes h.2⟩) fun _ _ h => h
  have hdrop {s₂ : Session M BoundFunction (HostState δ)} {v : ScriptValue}
      (h₂ : s.Becomes (a.push v) s₂) :
      (Stack.pop.mapError Error.ofEngineError : Crossing M δ Error Unit).wp handler
        (orFails (s.Extends a) broken fun _ => s.Extends a) s₂ := by
    rw [wp_mapError]
    refine wp_imp (pop_spec h₂ (by simp)) fun _ _ h => ?_
    rw [Array.pop_push] at h
    exact extends_of_becomes h
  have hsource {β : Type} {f : Crossing M δ Error β} (source : List UInt8) (filename : String)
      (hf : ∀ {s₂ : Session M BoundFunction (HostState δ)} {v : ScriptValue},
        s.Becomes (a.push v) s₂ →
          f.wp handler (orFails (s.Extends a) broken fun _ => s.Extends a) s₂) :
      (check (runSource source filename) >>= fun _ => f).wp handler
        (orFails (s.Extends a) broken fun _ => s.Extends a) s₁ := by
    refine wp_then (check_extends T hp (runSource_spec T hs source filename)) ?_
    rintro _ s₂ ⟨v, h₂⟩
    exact hf h₂
  cases hr with
  | evaluate source => exact hsource _ _ hpop
  | evaluateFile source filename => exact hsource _ _ hpop
  | execute source => exact hsource _ _ hdrop
  | executeFile source filename => exact hsource _ _ hdrop
  | getProperty path hpath =>
    refine wp_then (Context.resolve_spec T hp hpath hs) ?_
    rintro _ s₂ ⟨u, v, h₂⟩
    obtain ⟨b, w, hb, hkeep⟩ := Context.top_of_extends (extends_of_push h₂)
    exact wp_mono (hpop hb) (fun _ _ h => hkeep h) (fun _ _ h => ⟨h.1, hkeep h.2⟩) fun _ _ h => h
  | callProperty path args hpath =>
    refine wp_then (Context.resolve_spec T hp hpath hs) ?_
    rintro _ s₂ ⟨u, v, more, h₂⟩
    have hkeep {s' : Session M BoundFunction (HostState δ)}
        (h : s.Extends ((a.push u).push v ++ more) s') : s.Extends a s' :=
      extends_of_push (extends_of_push (extends_of_append h))
    have hdup {b : Array ScriptValue} {index : Nat} {s' : Session M BoundFunction (HostState δ)}
        (hi : index < b.size) (h : s.Becomes b s') :
        ((dup index).mapError Error.ofEngineError : Crossing M δ Error Unit).wp handler
          (orFails (s.Extends a) broken fun _ s' => ∃ v, s.Becomes (b.push v) s') s' := by
      rw [wp_mapError]
      exact wp_imp (dup_spec h hi) fun _ _ h => h
    refine wp_then (depth_spec h₂) ?_
    rintro _ s₂ ⟨rfl, h₂⟩
    dsimp only
    refine wp_then (hdup (by simp) h₂) ?_
    rintro _ s₃ ⟨x, h₃⟩
    refine wp_then (hdup (by simp; omega) h₃) ?_
    rintro _ s₄ ⟨y, h₄⟩
    exact wp_mono (Context.callWith_spec T hp _ args h₄) (fun _ _ h => hkeep (extends_of_becomes h))
      (fun _ _ h => ⟨h.1, hkeep h.2⟩) fun _ _ h => h
  | callSource source args =>
    refine hsource _ _ fun h₂ => wp_then (pushValue_spec h₂ .undefined) fun _ s₃ h₃ => ?_
    exact wp_imp (Context.callWith_spec T hp _ args h₃) fun _ _ h => extends_of_becomes h
  | defineFunction name function =>
    refine wp_then (pushNative_spec T hs _ _) ?_
    rintro _ s₂ ⟨v, h₂⟩
    have hput := putGlobal_spec T h₂ (by simp) (Text.utf8 name)
    rw [Array.pop_push] at hput
    exact wp_imp (check_extends T hp hput) fun _ _ h => extends_of_becomes h

/-- **The program of any operation ends well**, and the slots are those that there were. -/
theorem Runs.restoring_spec (T : Trust handler broken) (hp : s.poison = none)
    {program : Crossing M δ Error op.Value} (hr : Runs ctx op program) :
    (Context.restoring program).wp handler
      (orFails (s.Becomes s.slots) broken fun _ => s.Becomes s.slots) s := by
  unfold Context.restoring
  refine wp_then (depth_spec (.refl s)) ?_
  rintro _ s₁ ⟨rfl, hs⟩
  refine attempt_spec (hr.spec T hp hs) hp fun result s₂ he h₂ => ?_
  refine wp_imp (ofExcept_spec he h₂) ?_
  rintro _ _ ⟨-, rfl⟩
  exact h₂

end Operation

namespace Context

variable {ctx ctx' : Context M}

/-- One operation other than an abort on purpose leads from the context to `ctx'`, with host
functions that do not panic. -/
def QuietStep (ctx ctx' : Context M) : Prop :=
  ∃ (δ : Type) (functions : HostFunctions δ) (op : Operation) (host host' : HostState δ)
    (result : Except Error op.Value), functions.NeverPanic ∧ (∀ reason, op ≠ .injectFatal reason) ∧
      op.perform functions ctx host = some (result, ctx', host')

/-- Such operations lead from a new context to this one. -/
def QuietlyReached (config : Config) : Context M → Prop :=
  Relation.ReflTransGen QuietStep (Context.new M config)

/-- A valid context is still valid after a quiet step. -/
theorem QuietStep.isValid (hM : M.KeepsArrays) (hc : M.NeverCrashes) (h : QuietStep ctx ctx')
    (hv : ctx.isValid = true) : ctx'.isValid = true := by
  obtain ⟨δ, functions, op, host, host', result, hf, hop, hp⟩ := h
  cases Operation.performed_of_perform hv hp with
  | @ran _ program live _ engine _ hr hlive hleft =>
    have T := trust_nestedHandler hM hc hf nestingLimit
    cases hleft.ended (hr.restoring_spec T rfl) with
    | aborted reason hcause =>
      rcases hcause with ⟨payload, w, h⟩ | ⟨s, hs, ⟨a, h⟩ | ⟨e, h⟩⟩
      · exact h.elim
      · exact absurd (hs.symm.trans h.poison) (by simp [Engine.entry])
      · exact absurd (hs.symm.trans h.2.poison) (by simp [Engine.entry])
    | ok _ _ => exact isValid_of_live hv _ _ _
    | error _ _ => exact isValid_of_live hv _ _ _
  | getNothing path => exact hv
  | callNothing path args => exact hv
  | collected => exact hv
  | aborted reason => exact absurd rfl (hop reason)

/-- **No script and no argument can kill a context.**  If the machine does not break down, no host
function panics and nobody aborts it on purpose, a context stays valid.  The program of each
operation and each host function called by script, at any nesting and with any arguments, ends on a
stack that is not poisoned.  As programs so put together never take poison back
(`Assembled.honest`), none was poisoned on the way, and no branch that poisons one is ever taken. -/
theorem survives (hM : M.KeepsArrays) (hc : M.NeverCrashes) {config : Config}
    (h : QuietlyReached config ctx) :
    ctx.isValid = true ∧
    ∀ {δ : Type} {functions : HostFunctions δ}, functions.NeverPanic → ∀ depth : Nat,
      (∀ {op : Operation} {program : Crossing M δ Error op.Value}
        {live : M.State × Array BoundFunction} (host : HostState δ),
        op.Runs ctx program → ctx.engine.live = some live →
        (restoring program (nestedHandler (invoke functions) depth)
          (ctx.engine.entry live host)).Clean Error.isFatal) ∧
      ∀ c : NativeCall M BoundFunction (HostState δ),
        (invoke functions c.function (nestedHandler (invoke functions) depth)
          c.entry).Clean EngineError.isFatal := by
  have hvalid : ctx.isValid = true := by
    induction h with
    | refl => rfl
    | tail _ hstep ih => exact hstep.isValid hM hc ih
  refine ⟨hvalid, fun hf depth => ?_⟩
  have T := trust_nestedHandler hM hc hf depth
  refine ⟨fun host hr _ => ?_, fun c => ?_⟩
  · exact clean_of_wp (hr.restoring_spec T rfl) (fun _ _ h => h.poison)
      (fun _ _ h => ⟨h.2.poison, h.1⟩) fun _ _ h => h
  · have hcall := invoke_spec (s := c.entry) T hf c.function rfl (by simp [NativeCall.entry])
    refine clean_of_wp hcall ?_ ?_ fun _ _ h => h
    · rintro _ s' ⟨more, hm⟩
      exact hm.poison
    · rintro _ s' ⟨rfl, v, hv⟩
      exact ⟨hv.poison, rfl⟩

/-- A context on which a name was looked up in vain, and a host function that fails with a fatal
error of its own. -/
theorem survives_blank :
    let functions : HostFunctions Unit := fun _ _ host =>
      .failed ⟨[], .inl (.internal "refused")⟩ host
    let c : NativeCall Machine.blank BoundFunction (HostState Unit) :=
      ⟨⟨⟨0⟩, ⟨none, 8, 8⟩⟩, .undefined, [.null], ⟨Machine.blank.fresh, #[], ⟨.fresh, ()⟩⟩⟩
    ∃ ctx, QuietStep (Context.new Machine.blank {}) ctx ∧ ctx.isValid = true ∧
      (invoke functions c.function (nestedHandler (invoke functions) 1) c.entry).Clean
        EngineError.isFatal := by
  intro functions c
  have hf : functions.NeverPanic := fun _ _ _ => trivial
  have hstep : QuietStep (Context.new Machine.blank {}) (Context.new Machine.blank {}) :=
    ⟨Unit, functions, .getProperty ⟨["x"]⟩, ⟨.fresh, ()⟩, ⟨.fresh, ()⟩,
      .error (.reference "identifier 'x' undefined"), hf, fun _ => by simp, rfl⟩
  have h := survives Machine.keepsArrays_blank Machine.neverCrashes_blank
    (Relation.ReflTransGen.refl.tail hstep)
  exact ⟨_, hstep, h.1, (h.2 hf 1).2 c⟩

end Context

end ScriptHost
