import ScriptHost.Proofs.Machine.Blank
import ScriptHost.Proofs.Stack.Tower

/-!
# Callbacks work on stacks of their own

A program that is composed of primitives plays on a tower of live stacks just as it runs on its own
stack alone: its outcome, on top of the stacks below as they were.

* one call: `leaves_iff` and `unwinds_iff`, what the caller gets of the end of a function;
* one run of the machine, one program: `drives_iff`, `plays_iff`,
  for calls that match their answers;
* all depths: `matching_nested`, by induction on how deep calls are nested;
* `callbacks_isolated`: **the stacks below are not touched,
  and of a callback's stack only the reply is left**.
-/

namespace ScriptHost

open Tower (End)

variable {M : Machine} {κ ω ε ε' α β : Type}

/-! ## The end of a call -/

theorem Outcome.exists_over (below : List Frame) (o : Outcome M κ ω ε α) :
    o = .exhausted ∨ ∃ e, o.over below = some e := by
  cases o with
  | ok a s => exact .inr ⟨_, rfl⟩
  | error e s => exact .inr ⟨_, rfl⟩
  | panicked payload w => exact .inr ⟨_, rfl⟩
  | exhausted => exact .inl rfl

/-- The caller goes on exactly if the call is answered, with that reply and on its
own stack as it was. -/
theorem leaves_iff {o : Outcome M κ ω EngineError Bool} {frame : Frame} {below : List Frame}
    {callee : End M κ ω EngineError Bool} (h : o.over (frame :: below) = some callee)
    {reply : Except ScriptValue ScriptValue} {t : Tower M κ ω} :
    Leaves callee reply t ↔
      ∃ w, NativeResult.ofOutcome o = .ended reply w ∧
        t = ⟨⟨w, frame.slots, frame.poison⟩, below⟩ := by
  constructor
  · intro hleaves
    cases hleaves with
    | top w slots frame' below' => cases o <;> cases h; exact ⟨w, rfl, rfl⟩
    | nothing w slots frame' below' => cases o <;> cases h; exact ⟨w, rfl, rfl⟩
    | thrown w slots frame' below' => cases o <;> cases h; exact ⟨w, rfl, rfl⟩
  · rintro ⟨w, hreply, rfl⟩
    cases o with
    | ok b s =>
      obtain ⟨world, slots, poison⟩ := s
      cases h
      cases poison with
      | some reason => cases hreply
      | none =>
        cases hreply
        cases b with
        | true => exact .top world slots frame below
        | false => exact .nothing world slots frame below
    | error e s =>
      obtain ⟨world, slots, poison⟩ := s
      cases h
      cases poison with
      | some reason => cases hreply
      | none =>
        cases e with
        | fatal reason => cases hreply
        | thrown => cases hreply; exact .thrown world slots frame below
    | panicked payload w' => cases hreply
    | exhausted => cases hreply

/-- The caller is given up exactly if the call is answered with a panic,
and the stacks below it stay. -/
theorem unwinds_iff {o : Outcome M κ ω EngineError Bool} {frame : Frame} {below : List Frame}
    {callee : End M κ ω EngineError Bool} (h : o.over (frame :: below) = some callee)
    {payload : Payload} {w : World M κ ω} {below' : List Frame} :
    Unwinds callee payload w below' ↔ NativeResult.ofOutcome o = .panicked payload w ∧
      below' = below := by
  constructor
  · intro hunwinds
    cases hunwinds with
    | poisoned b w slots reason frame' below' => cases o <;> cases h; exact ⟨rfl, rfl⟩
    | poisonedFailure e w slots reason frame' below' => cases o <;> cases h; exact ⟨rfl, rfl⟩
    | fatal w slots reason frame' below' => cases o <;> cases h; exact ⟨rfl, rfl⟩
    | panicked payload w frame' below' => cases o <;> cases h; exact ⟨rfl, rfl⟩
  · rintro ⟨hpanic, rfl⟩
    cases o with
    | ok b s =>
      obtain ⟨world, slots, poison⟩ := s
      cases h
      cases poison with
      | some reason => cases hpanic; exact .poisoned b world slots reason frame _
      | none => cases hpanic
    | error e s =>
      obtain ⟨world, slots, poison⟩ := s
      cases h
      cases poison with
      | some reason => cases hpanic; exact .poisonedFailure e world slots reason frame _
      | none =>
        cases e with
        | fatal reason => cases hpanic; exact .fatal world slots reason frame _
        | thrown => cases hpanic
    | panicked payload' w' => cases h; cases hpanic; exact .panicked _ _ frame _
    | exhausted => cases hpanic

/-! ## Runs of the machine -/

/-- The functions play on towers as they end alone, and the handler answers with these ends. -/
structure Matching (plays : Playing M κ ω) (handler : Handler M κ ω)
    (outcome : κ → Session M κ ω → Outcome M κ ω EngineError Bool) : Prop where
  plays_iff : ∀ k t e, plays k t e ↔ (outcome k t.top).over t.below = some e
  handler_eq : ∀ k this args s (t : Tower M κ ω),
    handler k this args { t.top.world with machine := s } =
    .ofOutcome (outcome k (t.enter s this args).top)

theorem Driven.over_withWorld (t : Tower M κ ω) (w : World M κ ω) (d : Driven M κ ω α) :
    d.over (t.withWorld w) = d.over t := by
  cases d with
  | ended result w' => cases result <;> rfl
  | panicked payload w' => rfl
  | exhausted => rfl

variable {plays : Playing M κ ω} {handler : Handler M κ ω}
  {outcome : κ → Session M κ ω → Outcome M κ ω EngineError Bool}

/-- A run on a tower ends as the run with its calls answered. -/
theorem Drives.over (hm : Matching plays handler outcome) {act : Act M.State α} {t : Tower M κ ω}
    {e : End M κ ω Failure α} (h : Drives plays act t e) :
    (act.drive handler t.top.world).over t = some e := by
  induction h with
  | done s a t => rfl
  | failed s failure t => rfl
  | crash message t => rfl
  | missing hk _ ih =>
    rw [Act.drive, hk]
    exact ih
  | @answered s function this args next t t' k callee reply e hk hplays hleaves _ ih =>
    have hcallee := (hm.plays_iff _ _ _).mp hplays
    obtain ⟨w, hreply, rfl⟩ := (leaves_iff hcallee).mp hleaves
    have hanswer := (hm.handler_eq k this args s t).trans hreply
    rw [Act.drive, hk]
    dsimp only
    rw [hanswer]
    exact (Driven.over_withWorld t w _).symm.trans ih
  | @unwound s function this args next t k callee payload w below hk hplays hunwinds =>
    have hcallee := (hm.plays_iff _ _ _).mp hplays
    obtain ⟨hpanic, rfl⟩ := (unwinds_iff hcallee).mp hunwinds
    have hanswer := (hm.handler_eq k this args s t).trans hpanic
    rw [Act.drive, hk]
    dsimp only
    rw [hanswer]
    rfl

/-- A run with its calls answered can be played on any tower. -/
theorem drives_of_over (hm : Matching plays handler outcome) (act : Act M.State α) {t : Tower M κ ω}
    {e : End M κ ω Failure α} (h : (act.drive handler t.top.world).over t = some e) :
    Drives plays act t e := by
  induction act generalizing t with
  | done s result =>
    cases result with
    | ok a => cases h; exact .done s a t
    | error failure => cases h; exact .failed s failure t
  | crash message => cases h; exact .crash message t
  | exhausted => cases h
  | native s function this args next ih =>
    rw [Act.drive] at h
    cases hk : t.top.world.natives[function.index]? with
    | none =>
      rw [hk] at h
      exact .missing hk (ih _ _ h)
    | some k =>
      rw [hk] at h
      dsimp only at h
      rw [hm.handler_eq] at h
      rcases Outcome.exists_over (t.enter s this args).below
          (outcome k (t.enter s this args).top) with
        hexhausted | ⟨callee, hcallee⟩
      · rw [hexhausted] at h
        cases h
      · have hplays := (hm.plays_iff k (t.enter s this args) callee).mpr hcallee
        cases hresult : NativeResult.ofOutcome (outcome k (t.enter s this args).top) with
        | ended reply w =>
          rw [hresult] at h
          have hleaves := (leaves_iff hcallee).mpr ⟨w, hresult, rfl⟩
          exact .answered hk hplays hleaves (ih _ _ ((Driven.over_withWorld t w _).trans h))
        | panicked payload w =>
          rw [hresult] at h
          cases h
          exact .unwound hk hplays ((unwinds_iff hcallee).mpr ⟨hresult, rfl⟩)
        | exhausted =>
          rw [hresult] at h
          cases h

/-- **A run of the machine touches no stack.** -/
theorem drives_iff (hm : Matching plays handler outcome) {act : Act M.State α} {t : Tower M κ ω}
    {e : End M κ ω Failure α} :
    Drives plays act t e ↔ (act.drive handler t.top.world).over t = some e :=
  ⟨Drives.over hm, drives_of_over hm act⟩

/-! ## Programs -/

theorem Outcome.eq_ok_of_over {o : Outcome M κ ω ε α} {below : List Frame} {a : α} {t : Tower M κ ω}
    (h : o.over below = some (.ok a t)) : o = .ok a t.top ∧ t.below = below := by
  cases o <;> cases h
  exact ⟨rfl, rfl⟩

theorem Outcome.eq_error_of_over {o : Outcome M κ ω ε α} {below : List Frame} {e : ε}
    {t : Tower M κ ω}
    (h : o.over below = some (.error e t)) : o = .error e t.top ∧ t.below = below := by
  cases o <;> cases h
  exact ⟨rfl, rfl⟩

theorem Outcome.eq_panicked_of_over {o : Outcome M κ ω ε α} {below below' : List Frame}
    {payload : Payload} {w : World M κ ω} (h : o.over below = some (.panicked payload w below')) :
    o = .panicked payload w ∧ below' = below := by
  cases o <;> cases h
  exact ⟨rfl, rfl⟩

theorem over_act {f : M.State → Act M.State α} {t : Tower M κ ω} {d : Driven M κ ω α}
    (hd : (f t.top.world.machine).drive handler t.top.world = d) :
    (Stacked.act f handler t.top : Outcome M κ ω ε (Except Failure α)).over t.below =
      (d.over t).map End.attempt := by
  rw [Stacked.act, hd]
  cases d with
  | ended result w => cases result <;> rfl
  | panicked payload w => rfl
  | exhausted => rfl

theorem over_attempt (x : Stacked M κ ω ε α) (s : Session M κ ω) (below : List Frame) :
    (x.attempt handler s : Outcome M κ ω ε' (Except ε α)).over below =
      ((x handler s).over below).map End.attempt := by
  rw [Stacked.attempt]
  cases x handler s <;> rfl

theorem over_mapError (g : ε → ε') (x : Stacked M κ ω ε α) (s : Session M κ ω)
    (below : List Frame) :
    ((x.mapError g) handler s).over below = ((x handler s).over below).map (End.mapError g) := by
  rw [Stacked.mapError]
  cases x handler s <;> rfl

/-- A program on a tower ends as it does alone. -/
theorem Plays.over (hm : Matching plays handler outcome) {x : Stacked M κ ω ε α} {t : Tower M κ ω}
    {e : End M κ ω ε α} (h : Plays plays x t e) : (x handler t.top).over t.below = some e := by
  induction h with
  | pure a t => rfl
  | fail e t => rfl
  | panic payload t => rfl
  | read f t => rfl
  | update f t => rfl
  | withHost f t => rfl
  | make f t => rfl
  | act h => rw [over_act rfl, (drives_iff hm).mp h, Option.map_some]
  | attempt _ ih => rw [over_attempt, ih, Option.map_some]
  | mapError g _ ih => rw [over_mapError, ih, Option.map_some]
  | bind _ _ ihx ihf =>
    obtain ⟨hx, hbelow⟩ := Outcome.eq_ok_of_over ihx
    rw [Stacked.bind_apply, hx, ← hbelow]
    exact ihf
  | bindError _ ih =>
    obtain ⟨hx, hbelow⟩ := Outcome.eq_error_of_over ih
    rw [Stacked.bind_apply, hx, ← hbelow]
    rfl
  | bindPanicked _ ih =>
    obtain ⟨hx, rfl⟩ := Outcome.eq_panicked_of_over ih
    rw [Stacked.bind_apply, hx]
    rfl

/-- The second half is played on the tower that the first one leaves. -/
theorem plays_bind_of_over {x : Stacked M κ ω ε α} {f : α → Stacked M κ ω ε β} {t : Tower M κ ω}
    {e : End M κ ω ε β}
    (hx : ∀ first, (x handler t.top).over t.below = some first → Plays plays x t first)
    (hf : ∀ a s, x handler t.top = .ok a s → (f a handler s).over t.below = some e →
      Plays plays (f a) ⟨s, t.below⟩ e)
    (h : ((x >>= f) handler t.top).over t.below = some e) : Plays plays (x >>= f) t e := by
  rw [Stacked.bind_apply] at h
  cases hrun : x handler t.top with
  | ok a s =>
    rw [hrun] at h
    exact .bind (hx (.ok a ⟨s, t.below⟩) (by rw [hrun]; rfl)) (hf a s hrun h)
  | error e' s =>
    rw [hrun] at h
    cases h
    exact .bindError (hx _ (by rw [hrun]; rfl))
  | panicked payload w =>
    rw [hrun] at h
    cases h
    exact .bindPanicked (hx _ (by rw [hrun]; rfl))
  | exhausted =>
    rw [hrun] at h
    cases h

variable {touches : ω → ω → Prop} {fatal : ε → Bool}

/-- A program that ends alone can be played on any tower. -/
theorem plays_of_over (hm : Matching plays handler outcome) {x : Stacked M κ ω ε α}
    (hx : x.Assembled touches fatal) {t : Tower M κ ω} {e : End M κ ω ε α}
    (h : (x handler t.top).over t.below = some e) : Plays plays x t e := by
  induction hx generalizing t with
  | pure a => cases h; exact .pure a t
  | @fail _ _ _ e _ => cases h; exact .fail e t
  | @abort _ _ _ f e _ _ _ => cases h; exact .bind (.update f t) (.fail e _)
  | @unlessPoisoned _ _ _ x e _ ih =>
    refine plays_bind_of_over (fun _ hread => ?_) (fun poisoned s hread hrest => ?_) h
    · cases hread
      exact .read _ t
    · obtain rfl : t.top = s := by cases hread; rfl
      cases poisoned with
      | true => cases hrest; exact .fail e t
      | false => exact ih hrest
  | panic payload => cases h; exact .panic payload t
  | read f => cases h; exact .read f t
  | @update _ _ f _ _ => cases h; exact .update f t
  | @withHost _ _ _ f _ => cases h; exact .withHost f t
  | make f => cases h; exact .make f t
  | act _ =>
    rw [over_act rfl] at h
    obtain ⟨e', he', rfl⟩ := Option.map_eq_some_iff.mp h
    exact .act ((drives_iff hm).mpr he')
  | mapError _ _ ih =>
    rw [over_mapError] at h
    obtain ⟨e', he', rfl⟩ := Option.map_eq_some_iff.mp h
    exact .mapError _ (ih he')
  | attempt _ _ _ _ ihx ihok _ ihkeeps =>
    refine plays_bind_of_over (fun first hfirst => ?_) (fun result s _ hrest => ?_) h
    · rw [over_attempt] at hfirst
      obtain ⟨e', he', rfl⟩ := Option.map_eq_some_iff.mp hfirst
      exact .attempt (ihx he')
    · cases result with
      | ok a => exact ihok a (t := ⟨s, t.below⟩) hrest
      | error e' => exact ihkeeps e' (t := ⟨s, t.below⟩) hrest
  | bindGiven _ hgives _ ihx ihf =>
    exact plays_bind_of_over (fun _ hfirst => ihx hfirst)
      (fun a s hrun hrest => ihf a (Stacked.ok_of_wp (hgives handler t.top) hrun)
        (t := ⟨s, t.below⟩) hrest) h

/-- **A program works on the top stack alone.** -/
theorem plays_iff (hm : Matching plays handler outcome) {x : Stacked M κ ω ε α}
    (hx : x.Assembled touches fatal) {t : Tower M κ ω} {e : End M κ ω ε α} :
    Plays plays x t e ↔ (x handler t.top).over t.below = some e :=
  ⟨Plays.over hm, plays_of_over hm hx⟩

/-! ## Calls at every depth -/

/-- How a host function ends whose calls are nested at most `depth` deep, itself included. -/
def nestedOutcome (body : κ → Stacked M κ ω EngineError Bool) :
    (depth : Nat) → κ → Session M κ ω → Outcome M κ ω EngineError Bool
  | 0 => fun _ _ => .exhausted
  | depth + 1 => fun k s => body k (nestedHandler body depth) s

/-- The induction is on how deep calls are nested: a function plays on the tower under the calls
that it makes, which are nested one less deep. -/
theorem matching_nested {fatal : EngineError → Bool} {body : κ → Stacked M κ ω EngineError Bool}
    (hbody : ∀ k, (body k).Assembled touches fatal) (depth : Nat) :
    Matching (nestedPlays body depth) (nestedHandler body depth) (nestedOutcome body depth) := by
  induction depth with
  | zero =>
    refine ⟨fun k t e => ⟨fun h => h.elim, fun h => ?_⟩, fun k this args s t => rfl⟩
    cases h
  | succ depth ih => exact ⟨fun k t e => plays_iff ih (hbody k), fun k this args s t => rfl⟩

theorem drives_native (hm : Matching plays handler outcome) {t : Tower M κ ω} {s : M.State}
    {function : NativeId} {this : ScriptValue} {args : List ScriptValue}
    {next : M.State → Except ScriptValue ScriptValue → Act M.State α} {k : κ} {w : World M κ ω}
    {reply : Except ScriptValue ScriptValue} (hk : t.top.world.natives[function.index]? = some k)
    (hreply : handler k this args { t.top.world with machine := s } = .ended reply w)
    (e : End M κ ω Failure α) :
    Drives plays (.native s function this args next) t e ↔
      Drives plays (next w.machine reply) (t.withWorld w) e := by
  rw [drives_iff hm, drives_iff hm, Driven.over_withWorld, Act.drive, hk]
  dsimp only
  rw [hreply]
  rfl

/-- **Callbacks are isolated from the stacks below them.**  Whatever host functions are composed of
and however deep they are nested, a program on a tower of live stacks ends as it does on its own
stack alone, with all stacks below as they were.  A function that script calls starts on the
receiver and the arguments and nothing else; and if it ends without poison, without a fatal failure
and without a panic, the script goes on under the very same stacks with the top slot returned, with
the missing value returned, or with the top slot thrown. -/
theorem callbacks_isolated {body : κ → Stacked M κ ω EngineError Bool}
    (hbody : ∀ k, (body k).Composed) {x : Stacked M κ ω ε α} (hx : x.Composed) (depth : Nat) :
    (∀ t e, Plays (nestedPlays body depth) x t e ↔
      (x (nestedHandler body depth) t.top).over t.below = some e) ∧
    (∀ t e, Plays (nestedPlays body depth) x t e → e.below = t.below) ∧
    ∀ {γ : Type} (t : Tower M κ ω) (s : M.State) (function : NativeId) (this : ScriptValue)
      (args : List ScriptValue)
      (next : M.State → Except ScriptValue ScriptValue → Act M.State γ) (k : κ),
      t.top.world.natives[function.index]? = some k →
      let entry := t.enter s this args
      (entry.top.slots.toList = this :: args ∧ entry.top.poison = none ∧
        ∀ e, nestedPlays body (depth + 1) k entry e →
          e.below = ⟨t.top.slots, t.top.poison⟩ :: t.below) ∧
      (∀ returnsTop w slots,
        body k (nestedHandler body depth) entry.top = .ok returnsTop ⟨w, slots, none⟩ →
        ∀ e, Drives (nestedPlays body (depth + 1)) (.native s function this args next) t e ↔
          Drives (nestedPlays body (depth + 1))
            (next w.machine (.ok (if returnsTop then slots.back?.getD .undefined else .undefined)))
            (t.withWorld w) e) ∧
      ∀ w slots, body k (nestedHandler body depth) entry.top = .error .thrown ⟨w, slots, none⟩ →
        ∀ e, Drives (nestedPlays body (depth + 1)) (.native s function this args next) t e ↔
          Drives (nestedPlays body (depth + 1))
            (next w.machine (.error (slots.back?.getD .undefined))) (t.withWorld w) e := by
  have hassembled := fun k => (hbody k).assembled
  have hm := matching_nested hassembled depth
  have hm' := matching_nested hassembled (depth + 1)
  have hplays (t : Tower M κ ω) (e : End M κ ω ε α) := plays_iff hm hx.assembled (t := t) (e := e)
  refine ⟨hplays, fun t e h => ?_, fun t s function this args next k hk =>
    ⟨⟨rfl, rfl, fun e h => ?_⟩, ?_, ?_⟩⟩
  · exact Outcome.below_of_over ((hplays t e).mp h)
  · exact Outcome.below_of_over ((hm'.plays_iff k _ e).mp h)
  · intro returnsTop w slots hend
    exact drives_native hm' hk
      ((hm'.handler_eq k this args s t).trans (congrArg NativeResult.ofOutcome hend))
  · intro w slots hend
    exact drives_native hm' hk
      ((hm'.handler_eq k this args s t).trans (congrArg NativeResult.ofOutcome hend))

/-! A callback that calls another one while its own stack holds an argument and a
value of its own. -/

/-- The inner function pops its receiver, leaves two values behind and returns the upper one; the
outer one calls it above what it holds and returns the result. -/
def messy : Bool → Stacked Machine.blank Bool Unit EngineError Bool
  | false => do
    Stack.pop
    Stack.pushNull
    Stack.pushBoolean false
    pure true
  | true => do
    Stack.pushNull
    Stack.pushNative "inner" false
    Stack.pushUndefined
    Stack.callMethod 0
    pure true

/-- Script calls the outer function with one argument. -/
def callMessy : Stacked Machine.blank Bool Unit EngineError Unit := do
  Stack.pushNative "outer" true
  Stack.pushUndefined
  Stack.pushNull
  Stack.callMethod 1

theorem composed_messy (outer : Bool) : (messy outer).Composed := by
  cases outer with
  | false =>
    exact .bind (.primitive .pop) fun _ => .bind (.primitive .pushNull) fun _ =>
      .bind (.primitive (.pushBoolean _)) fun _ => .pure _
  | true =>
    exact .bind (.primitive .pushNull) fun _ => .bind (.primitive (.pushNative _ _)) fun _ =>
      .bind (.primitive .pushUndefined) fun _ => .bind (.primitive (.callMethod _)) fun _ => .pure _

theorem composed_callMessy : callMessy.Composed :=
  .bind (.primitive (.pushNative _ _)) fun _ => .bind (.primitive .pushUndefined) fun _ =>
    .bind (.primitive .pushNull) fun _ => .primitive (.callMethod _)

/-- Above a slot of its own and a stack that waits, the program finds the result of both calls and
nothing else; and a script that calls the inner function alone goes on with the
value that it left on top. -/
theorem callbacks_isolated_messy :
    (∃ w, Plays (nestedPlays messy 2) callMessy
      ⟨⟨⟨Machine.blank.fresh, #[], ()⟩, #[.boolean true], none⟩, [⟨#[.null, .undefined], none⟩]⟩
      (.ok () ⟨⟨w, #[.boolean true, .boolean false], none⟩, [⟨#[.null, .undefined], none⟩]⟩)) ∧
    Drives (nestedPlays messy 1)
      (.native Machine.blank.fresh ⟨0⟩ .undefined [.null] fun s reply =>
        .done s (reply.mapError (⟨.value ·, []⟩)))
      ⟨⟨⟨Machine.blank.fresh, #[false], ()⟩, #[.boolean true], none⟩,
        [⟨#[.null, .undefined], none⟩]⟩ (.ok (.boolean false)
        ⟨⟨⟨Machine.blank.fresh, #[false], ()⟩, #[.boolean true], none⟩,
          [⟨#[.null, .undefined], none⟩]⟩) := by
  refine ⟨⟨_, ((callbacks_isolated composed_messy composed_callMessy 2).1 _ _).mpr rfl⟩, ?_⟩
  have hcall := (callbacks_isolated composed_messy composed_callMessy 0).2.2
    (⟨⟨⟨Machine.blank.fresh, #[false], ()⟩, #[.boolean true], none⟩,
      [⟨#[.null, .undefined], none⟩]⟩ :
      Tower Machine.blank Bool Unit) Machine.blank.fresh ⟨0⟩ .undefined [.null]
    (fun s reply => .done s (reply.mapError (⟨.value ·, []⟩))) false rfl
  exact (hcall.2.1 true _ _ rfl _).mpr (.done _ _ _)

end ScriptHost
