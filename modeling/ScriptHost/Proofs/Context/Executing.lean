import ScriptHost.Proofs.Context.Fatal
import ScriptHost.Proofs.Context.HostErrors
import ScriptHost.Proofs.Context.Paths
import ScriptHost.Proofs.Crossing.Recross
import ScriptHost.Proofs.Machine.Blank

/-!
# Running source without looking at what comes of it

To execute source and to evaluate it is the same up to the end of the script.  A script that does
not complete ends both in the same way.  One that completes has made the world that executing
leaves, and what else evaluating does is to convert the completion value in that world.

* `scriptEnd`, `convert`: the script on its own, and the conversion on its own;
* `executeFile_of_completed`, `evaluateFile_of_completed`, `exists_failed`:
  how the two operations end;
* `execute_without_conversion`: **to execute is to evaluate without the conversion**.
-/

namespace ScriptHost

open Stack Stacked Crossing

namespace Context

variable {M : Machine} {δ α : Type}

section

variable (functions : HostFunctions δ) (ctx : Context M) (host : HostState δ)

/-- How the script of a source ends on a living machine, its calls answered. -/
def scriptEnd (live : M.State × Array BoundFunction) (source filename : String) :
    Driven M BoundFunction (HostState δ) ScriptValue :=
  (M.run (Text.utf8 source) filename live.1).drive
    (nestedHandler (invoke functions) nestingLimit) ⟨live.1, live.2, host⟩

/-- The conversion of a value as an operation of its own. -/
def convert (v : ScriptValue) : Result M δ HostValue :=
  ctx.runProgram functions host do
    pushValue v
    ctx.marshaller.pop

end

variable {functions : HostFunctions δ} {ctx ctx' : Context M} {host host' : HostState δ}
  {live : M.State × Array BoundFunction} {source filename : String} {v : ScriptValue}
  {handler : Handler M BoundFunction (HostState δ)}
  {w : World M BoundFunction (HostState δ)} {s s' : Session M BoundFunction (HostState δ)}

theorem isValid_after (hv : ctx.isValid = true) (w : World M BoundFunction (HostState δ)) :
    (ctx.after w).isValid = true :=
  isValid_of_live hv (w.machine, w.natives) ctx.engine.slots ctx.config

theorem concluded_after (hv : ctx.isValid = true)
    (o : Outcome M BoundFunction (HostState δ) Error α) :
    (ctx.after w).concluded functions w.host o = ctx.concluded functions host o := by
  obtain ⟨live, hlive⟩ := Option.isSome_iff_exists.mp (isAlive_of_isValid hv)
  unfold concluded runProgram Engine.protect
  rw [if_pos hv, if_pos (isValid_after hv w), hlive]
  cases o <;> rfl

/-! ## The script -/

theorem runSource_of_completed
    (h : (M.run (Text.utf8 source) filename s.world.machine).drive handler s.world =
      .ended (.ok v) w) :
    (check (runSource (Text.utf8 source) filename) : Crossing M δ Error Unit) handler s =
      .ok () ⟨w, s.slots.push v, s.poison⟩ := by
  have hrun : (runSource (Text.utf8 source) filename : Crossing M δ EngineError Unit) handler s =
      .ok () ⟨w, s.slots.push v, s.poison⟩ := bind_eq_of_ok (perform_of_ok h)
  unfold check
  rw [bind_eq_of_ok (attempt_of_ok hrun)]
  rfl

theorem completed_of_runSource
    (h : (check (runSource (Text.utf8 source) filename) : Crossing M δ Error Unit) handler s =
      .ok () s') :
    ∃ v w, (M.run (Text.utf8 source) filename s.world.machine).drive handler s.world =
      .ended (.ok v) w := by
  obtain ⟨v, s₁, hperform, -⟩ := exists_of_bind_eq_ok (check_eq_ok h)
  obtain ⟨w, hdrive, -⟩ := perform_eq_ok hperform
  exact ⟨v, w, hdrive⟩

/-! ## A script that completes -/

theorem executeFile_of_completed (hv : ctx.isValid = true) (hlive : ctx.engine.live = some live)
    (h : scriptEnd functions host live source filename = .ended (.ok v) w) :
    ctx.executeFile functions host source filename = some (.ok (), ctx.after w, w.host) := by
  have hpop : (Stack.pop.mapError Error.ofEngineError : Crossing M δ Error Unit)
      (nestedHandler (invoke functions) nestingLimit) ⟨w, ctx.engine.slots.push v, none⟩ =
      .ok () ⟨w, ctx.engine.slots, none⟩ :=
    mapError_of_ok (bind_eq_of_ok (takeTop_of_push rfl))
  refine (runProgram_eq_concluded hlive _).trans ?_
  rw [bind_eq_of_ok (runSource_of_completed (s := ctx.engine.entry live host) h)]
  refine (congrArg (ctx.concluded functions host) hpop).trans ?_
  simpa using concluded_of_kept (w := w) hv (.ok ()) #[]

/-- The completion value is converted in the world that the script has left. -/
theorem evaluateFile_of_completed (hv : ctx.isValid = true) (hlive : ctx.engine.live = some live)
    (h : scriptEnd functions host live source filename = .ended (.ok v) w) :
    ctx.evaluateFile functions host source filename =
      (ctx.after w).convert functions w.host v := by
  have hafter : (ctx.after w).engine.live = some (w.machine, w.natives) := rfl
  refine (runProgram_eq_concluded hlive _).trans ?_
  rw [bind_eq_of_ok (runSource_of_completed (s := ctx.engine.entry live host) h), convert,
    runProgram_eq_concluded hafter, concluded_after hv]
  rfl

/-! ## A script that does not -/

/-- What an operation answers that fails, none if it does not end. -/
abbrev Failed (M : Machine) (δ : Type) := Option (Error × Context M × HostState δ)

/-- A failure as the answer of an operation. -/
def Failed.answer (failed : Failed M δ) : Result M δ α := failed.map fun (e, rest) =>
    (.error e, rest)

theorem Failed.answer_ne_ok (failed : Failed M δ) (a : α) (rest : Context M × HostState δ) :
    failed.answer ≠ some (.ok a, rest) := by
  cases failed <;> simp [Failed.answer]

theorem Failed.answer_eq_error {failed : Failed M δ} {e : Error} {rest : Context M × HostState δ} :
    (failed.answer : Result M δ α) = some (.error e, rest) ↔ failed = some (e, rest) := by
  cases failed <;> simp [Failed.answer, Prod.ext_iff]

/-- Protected work that ends in an error is answered without regard to what it would have given. -/
theorem exists_protect_of_error (hlive : ctx.engine.live = some live) (e : Error)
    (s : Session M BoundFunction (HostState δ)) :
    ∃ (e' : Error) (engine : Engine M BoundFunction Unit) (host' : HostState δ),
      ∀ {α : Type} {program : Crossing M δ Error α},
        program handler (ctx.engine.entry live host) = .error e s →
        ctx.engine.protect host handler Error.ofEngineError program =
          some (.error e', engine, host') := by
  cases hp : s.poison with
  | none => exact ⟨_, _, _, fun h => Engine.protect_of_error hlive h hp⟩
  | some reason =>
    refine ⟨.internal reason, ctx.engine.abort reason, s.world.host, fun h => ?_⟩
    unfold Engine.entry at h
    simp only [Engine.protect, hlive, h, hp]
    rfl

/-- A program that fails is concluded without regard to what it would have given. -/
theorem exists_failed_of_error (functions : HostFunctions δ) (host : HostState δ)
    (hv : ctx.isValid = true) (e : Error) (s : Session M BoundFunction (HostState δ)) :
    ∃ failed : Failed M δ, ∀ {α : Type},
      ctx.concluded functions host (.error e s : Outcome M BoundFunction (HostState δ) Error α) =
        failed.answer := by
  obtain ⟨live, hlive⟩ := Option.isSome_iff_exists.mp (isAlive_of_isValid hv)
  obtain ⟨t, hrestored⟩ : ∃ t, ∀ {α : Type},
      restoring (fun _ _ => .error e s : Crossing M δ Error α)
        (nestedHandler (invoke functions) nestingLimit) (ctx.engine.entry live host) = .error e t :=
    ⟨_, rfl⟩
  obtain ⟨e', engine, host', hprotect⟩ := exists_protect_of_error hlive e t
  refine ⟨some (e', { ctx with engine := engine }, host'), ?_⟩
  exact (if_pos hv).trans (congrArg (Option.map _) (hprotect hrestored))

/-- **Both operations end in the same way** if the script does not complete. -/
theorem exists_failed (hv : ctx.isValid = true) (hlive : ctx.engine.live = some live)
    (h : ∀ v w, scriptEnd functions host live source filename ≠ .ended (.ok v) w) :
    ∃ failed : Failed M δ, ctx.executeFile functions host source filename = failed.answer ∧
      ctx.evaluateFile functions host source filename = failed.answer := by
  let handler : Handler M BoundFunction (HostState δ) :=
    nestedHandler (invoke functions) nestingLimit
  let ran : Crossing M δ Error Unit := check (runSource (Text.utf8 source) filename)
  have hexecute : ctx.executeFile functions host source filename = ctx.concluded functions host
      ((ran >>= fun _ => Stack.pop.mapError Error.ofEngineError) handler
        (ctx.engine.entry live host)) :=
    runProgram_eq_concluded hlive _
  have hevaluate : ctx.evaluateFile functions host source filename = ctx.concluded functions host
      ((ran >>= fun _ => ctx.marshaller.pop) handler (ctx.engine.entry live host)) :=
    runProgram_eq_concluded hlive _
  cases hrun : ran handler (ctx.engine.entry live host) with
  | ok _ s =>
    obtain ⟨v, w, hcompleted⟩ := completed_of_runSource hrun
    exact absurd hcompleted (h v w)
  | error e s =>
    obtain ⟨failed, hfailed⟩ := exists_failed_of_error functions host hv e s
    rw [bind_eq_of_error hrun] at hexecute hevaluate
    exact ⟨failed, hexecute.trans hfailed, hevaluate.trans hfailed⟩
  | panicked payload w =>
    rw [bind_eq_of_panicked hrun] at hexecute hevaluate
    exact ⟨some (_, _, _), hexecute.trans (concluded_panicked hv payload),
      hevaluate.trans (concluded_panicked hv payload)⟩
  | exhausted =>
    rw [bind_apply, hrun] at hexecute hevaluate
    exact ⟨none, hexecute.trans (concluded_exhausted hv), hevaluate.trans (concluded_exhausted hv)⟩

/-! ## The two operations -/

/-- **To execute is to evaluate without the conversion**, whatever the script does and whatever it
completes with. -/
theorem execute_without_conversion (functions : HostFunctions δ) (host : HostState δ)
    (hv : ctx.isValid = true) (hlive : ctx.engine.live = some live) (source filename : String) :
    let executed := ctx.executeFile functions host source filename
    let evaluated := ctx.evaluateFile functions host source filename
    let ended := scriptEnd functions host live source filename
    ((∃ rest, executed = some (.ok (), rest)) ↔ ∃ v w, ended = .ended (.ok v) w) ∧
    (∀ v w, ended = .ended (.ok v) w →
      executed = some (.ok (), ctx.after w, w.host) ∧ (ctx.after w).isValid = true ∧
      evaluated = (ctx.after w).convert functions w.host v) ∧
    ((∀ v w, ended ≠ .ended (.ok v) w) → ∃ failed : Failed M δ,
      executed = failed.answer ∧ evaluated = failed.answer) ∧
    (∀ u rest, evaluated = some (.ok u, rest) → ∃ rest', executed = some (.ok (), rest')) ∧
    ∀ e rest, evaluated = some (.error e, rest) → executed = some (.error e, rest) ∨
      ∃ v w, ended = .ended (.ok v) w ∧
        (ctx.after w).convert functions w.host v = some (.error e, rest) := by
  intro executed evaluated ended
  have hcompleted (v w) (h : ended = .ended (.ok v) w) :
      executed = some (.ok (), ctx.after w, w.host) ∧ (ctx.after w).isValid = true ∧
        evaluated = (ctx.after w).convert functions w.host v :=
    ⟨executeFile_of_completed hv hlive h, isValid_after hv w, evaluateFile_of_completed hv hlive h⟩
  have hfailed (h : ∀ v w, ended ≠ .ended (.ok v) w) := exists_failed hv hlive h
  by_cases hends : ∃ v w, ended = .ended (.ok v) w
  · obtain ⟨v, w, hend⟩ := hends
    obtain ⟨hexecuted, -, hevaluated⟩ := hcompleted v w hend
    exact ⟨iff_of_true ⟨_, hexecuted⟩ ⟨v, w, hend⟩, hcompleted, hfailed,
      fun _ _ _ => ⟨_, hexecuted⟩, fun _ _ h => .inr ⟨v, w, hend, hevaluated.symm.trans h⟩⟩
  · obtain ⟨failed, hexecuted, hevaluated⟩ := hfailed fun v w h => hends ⟨v, w, h⟩
    refine ⟨iff_of_false ?_ hends, hcompleted, hfailed, fun u rest h => ?_, fun e rest h => .inl ?_⟩
    · rintro ⟨rest, h⟩
      exact failed.answer_ne_ok () rest (hexecuted.symm.trans h)
    · exact absurd (hevaluated.symm.trans h) (failed.answer_ne_ok u rest)
    · exact hexecuted.trans
        (Failed.answer_eq_error.mpr (Failed.answer_eq_error.mp (hevaluated.symm.trans h)))

end Context

/-- The grudging machine with scripts that complete with a new array. -/
def Machine.withholding : Machine :=
  { Machine.grudging with
    run := fun _ _ s =>
      let made := Machine.allocate ⟨.array, none⟩ s
      .done made.2 (.ok (.object made.1)) }

/-- The array is dropped without being asked for its element.  Converting it asks, and fails. -/
theorem execute_without_conversion_withholding :
    let ctx := Context.new Machine.withholding {}
    let host : HostState Unit := ⟨.fresh, ()⟩
    let functions : HostFunctions Unit := fun _ _ host => .returned .null host
    let w : World Machine.withholding BoundFunction (HostState Unit) :=
      ⟨[⟨.plain, none⟩, ⟨.array, none⟩], #[], host⟩
    let ended := Context.scriptEnd functions host (Machine.withholding.fresh, #[]) "[x]" "a.js"
    ctx.isValid = true ∧ ctx.engine.live = some (Machine.withholding.fresh, #[]) ∧
    ended = .ended (.ok (.object 1)) w ∧
    ctx.executeFile functions host "[x]" "a.js" = some (.ok (), ctx.after w, host) ∧
    ctx.evaluateFile functions host "[x]" "a.js" =
      some (.error (.script "Error" "" none), ctx.after w, host) := by
  intro ctx host functions w ended
  have hv : ctx.isValid = true := rfl
  have hlive : ctx.engine.live = some (Machine.withholding.fresh, #[]) := rfl
  have hended : ended = .ended (.ok (.object 1)) w := rfl
  obtain ⟨-, hcompleted, -⟩ :=
    Context.execute_without_conversion functions host hv hlive "[x]" "a.js"
  obtain ⟨hexecuted, -, hevaluated⟩ := hcompleted _ _ hended
  exact ⟨hv, hlive, hended, hexecuted, hevaluated.trans (by cbv)⟩

end ScriptHost
