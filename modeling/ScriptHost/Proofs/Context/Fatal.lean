import ScriptHost.Proofs.Context.Performed
import ScriptHost.Proofs.Crossing.Assembled
import ScriptHost.Proofs.Machine.Blank

/-!
# Fatal errors and the validity of a context

An operation fails with a fatal error exactly if it has cost the context its validity.  That an
abort is reported as a fatal error lies in `Engine.Left`; that nothing else is follows from how the
programs of all operations are put together: what they fail with is fatal only on a poisoned stack.
Neither the error of a host function nor the name of a thrown value can change that: both
come back as errors of the script.

* `Context.assembled_resolve`, `Runs.assembled`: the programs are assembled;
* `fatal_iff_invalid`: **fatal errors tell the truth.**
-/

namespace ScriptHost

open Stack Stacked Crossing

variable {M : Machine} {δ α : Type} {functions : HostFunctions δ} {ctx ctx' : Context M}
  {host host' : HostState δ}

namespace Context

variable {touches : HostState δ → HostState δ → Prop}

theorem assembled_resolveFrom (keys : List String) :
    (resolveFrom keys : Crossing M δ Error Unit).Assembled touches Error.isFatal := by
  induction keys with
  | nil => exact .pure _
  | cons key rest ih =>
    unfold resolveFrom
    refine assembled_depth.bind fun n => ?_
    dsimp only
    refine (assembled_slotType _).bind fun kind => ?_
    split
    · exact (Assembled.fail rfl).bind fun _ =>
        (assembled_check (assembled_getProp _ _)).bind fun _ => ih
    · exact (assembled_check (assembled_getProp _ _)).bind fun _ => ih

theorem assembled_resolve (path : PropertyPath) :
    (resolve path : Crossing M δ Error Unit).Assembled touches Error.isFatal := by
  unfold resolve
  cases path.keys with
  | nil => exact .fail rfl
  | cons root rest =>
    refine assembled_pushGlobal.bind fun _ => assembled_depth.bind fun n => ?_
    dsimp only
    refine (assembled_check (assembled_getProp _ _)).bind fun found => ?_
    split
    · exact (Assembled.fail rfl).bind fun _ => assembled_resolveFrom rest
    · exact assembled_resolveFrom rest

theorem assembled_pushArguments (m : Marshaller) (args : List HostValue) :
    (pushArguments m args : Crossing M δ Error Unit).Assembled HostState.Takes Error.isFatal := by
  induction args with
  | nil => exact .pure _
  | cons arg rest ih => exact (m.assembled_push arg).bind fun _ => ih

theorem assembled_callWith (m : Marshaller) (args : List HostValue) :
    (callWith m args : Crossing M δ Error HostValue).Assembled HostState.Takes Error.isFatal :=
  (assembled_pushArguments m args).bind fun _ =>
    (assembled_check (assembled_callMethod _)).bind fun _ => m.assembled_pop

theorem assembled_restoring {program : Crossing M δ Error α}
    (h : program.Assembled touches Error.isFatal) :
    (restoring program).Assembled touches Error.isFatal := by
  refine assembled_depth.bind fun base => ?_
  have htidied := assembled_tidied h (assembled_setDepth base) fun _ a => .pure a
  simpa only [bind_pure] using htidied

theorem not_isValid_abort (engine : Engine M BoundFunction Unit) (config : Config)
    (reason : String) : (⟨engine.abort reason, config⟩ : Context M).isValid = false :=
  Bool.and_false _

theorem isValid_of_live (hv : ctx.isValid = true) (live : M.State × Array BoundFunction)
    (slots : Array ScriptValue) (config : Config) :
    (⟨{ ctx.engine with live := some live, slots := slots }, config⟩ : Context M).isValid =
      true := by
  unfold isValid at hv ⊢
  rw [Bool.and_eq_true] at hv ⊢
  exact ⟨hv.1, rfl⟩

end Context

namespace Operation

variable {op : Operation}

/-- The programs of the operations are put together from steps of the stack. -/
theorem Runs.assembled {program : Crossing M δ Error op.Value} (h : Runs ctx op program) :
    program.Assembled HostState.Takes Error.isFatal := by
  have hrun (source : List UInt8) (filename : String) :
      (check (runSource source filename) : Crossing M δ Error Unit).Assembled HostState.Takes
        Error.isFatal := assembled_check (assembled_runSource source filename)
  cases h with
  | evaluate source => exact (hrun _ _).bind fun _ => ctx.marshaller.assembled_pop
  | evaluateFile source filename => exact (hrun _ _).bind fun _ => ctx.marshaller.assembled_pop
  | execute source => exact (hrun _ _).bind fun _ => assembled_unclassified Stack.assembled_pop
  | executeFile source filename =>
    exact (hrun _ _).bind fun _ => assembled_unclassified Stack.assembled_pop
  | getProperty path _ =>
    exact (Context.assembled_resolve path).bind fun _ => ctx.marshaller.assembled_pop
  | callProperty path args _ =>
    exact (Context.assembled_resolve path).bind fun _ => assembled_depth.bind fun _ =>
      (assembled_unclassified (assembled_dup _)).bind fun _ =>
      (assembled_unclassified (assembled_dup _)).bind fun _ => Context.assembled_callWith _ args
  | callSource source args =>
    exact (hrun _ _).bind fun _ => (assembled_pushValue _).bind fun _ =>
      Context.assembled_callWith _ args
  | defineFunction name function =>
    exact (assembled_pushNative _ _).bind fun _ => assembled_check (assembled_putGlobal _)

/-- The context is no longer valid exactly if the operation failed with a fatal error. -/
theorem Performed.fatal_iff (hv : ctx.isValid = true) {result : Except Error op.Value}
    (h : Performed functions ctx host op result ctx' host') :
    (∃ e, result = .error e ∧ e.isFatal = true) ↔ ctx'.isValid = false := by
  -- Either both sides hold or neither does.
  have hboth {ctx'' : Context M} {reason : String} {result : Except Error op.Value}
      (hr : result = .error (.internal reason)) (hinvalid : ctx''.isValid = false) :
      (∃ e, result = .error e ∧ e.isFatal = true) ↔ ctx''.isValid = false :=
    ⟨fun _ => hinvalid, fun _ => ⟨_, hr, rfl⟩⟩
  have hneither {ctx'' : Context M} {result : Except Error op.Value}
      (hr : ∀ e, result = .error e → e.isFatal = false) (hvalid : ctx''.isValid = true) :
      (∃ e, result = .error e ∧ e.isFatal = true) ↔ ctx''.isValid = false := by
    refine ⟨?_, fun hinvalid => absurd (hvalid.symm.trans hinvalid) (by simp)⟩
    rintro ⟨e, he, hfatal⟩
    exact absurd ((hr e he).symm.trans hfatal) (by simp)
  cases h with
  | @ran _ program live _ engine _ hr hlive hleft =>
    cases hleft.ended ((Context.assembled_restoring hr.assembled).honest _ _) with
    | aborted reason _ => exact hboth rfl (Context.not_isValid_abort _ _ _)
    | ok _ _ => exact hneither (by simp) (Context.isValid_of_live hv _ _ _)
    | @error e s hhonest hs =>
      refine hneither ?_ (Context.isValid_of_live hv _ _ _)
      rintro _ ⟨rfl⟩
      cases hfatal : e.isFatal with
      | false => rfl
      | true => exact absurd (hhonest.2 hfatal) (by simp [hs])
  | getNothing path => exact hneither (by rintro _ ⟨rfl⟩; rfl) hv
  | callNothing path args => exact hneither (by rintro _ ⟨rfl⟩; rfl) hv
  | collected => exact hneither (by rintro _ ⟨⟩) hv
  | aborted reason => exact hboth rfl (Context.not_isValid_abort _ _ _)

/-- **Fatal errors tell the truth**: an operation on a valid context fails with one exactly if the
context is no longer valid behind it.  So neither a result nor any other error costs the validity,
whatever the machine and the host functions do. -/
theorem fatal_iff_invalid (hv : ctx.isValid = true) {result : Except Error op.Value}
    (h : op.perform functions ctx host = some (result, ctx', host')) :
    ((∃ e, result = .error e ∧ e.isFatal = true) ↔ ctx'.isValid = false) ∧
    (∀ a, result = .ok a → ctx'.isValid = true) ∧
    ∀ e, result = .error e → e.isFatal = false → ctx'.isValid = true := by
  have hiff := (performed_of_perform hv h).fatal_iff hv
  refine ⟨hiff, fun a ha => ?_, fun e he hfatal => ?_⟩
  · cases hvalid : ctx'.isValid with
    | true => rfl
    | false =>
      obtain ⟨e, he, -⟩ := hiff.mpr hvalid
      exact absurd (ha.symm.trans he) (by simp)
  · cases hvalid : ctx'.isValid with
    | true => rfl
    | false =>
      obtain ⟨e', he', hfatal'⟩ := hiff.mpr hvalid
      obtain rfl : e = e' := Except.error.inj (he.symm.trans he')
      exact absurd (hfatal.symm.trans hfatal') (by simp)

/-- A missing name is an error that leaves the context valid; an abort is a fatal one. -/
theorem fatal_iff_invalid_blank :
    let ctx := Context.new Machine.blank {}
    let functions : HostFunctions Unit := fun _ _ host => .returned .null host
    (∃ ctx', (getProperty ⟨["x"]⟩).perform functions ctx ⟨.fresh, ()⟩ =
        some (.error (.reference "identifier 'x' undefined"), ctx', ⟨.fresh, ()⟩) ∧
      ctx'.isValid = true) ∧
    ∃ ctx', (injectFatal "broken").perform functions ctx ⟨.fresh, ()⟩ =
        some (.error (.internal "broken"), ctx', ⟨.fresh, ()⟩) ∧ ctx'.isValid = false := by
  intro ctx functions
  have hread : (getProperty ⟨["x"]⟩).perform functions ctx ⟨.fresh, ()⟩ =
      some (.error (.reference "identifier 'x' undefined"), ctx, ⟨.fresh, ()⟩) := rfl
  have habort : (injectFatal "broken").perform functions ctx ⟨.fresh, ()⟩ =
      some (.error (.internal "broken"), (ctx.injectFatal "broken").2, ⟨.fresh, ()⟩) := rfl
  exact ⟨⟨_, hread, (fatal_iff_invalid rfl hread).2.2 _ rfl rfl⟩,
    ⟨_, habort, (fatal_iff_invalid rfl habort).1.mp ⟨_, rfl, rfl⟩⟩⟩

end Operation

end ScriptHost
