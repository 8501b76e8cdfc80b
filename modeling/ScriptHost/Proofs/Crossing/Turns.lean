import ScriptHost.Proofs.Crossing.Assembled
import ScriptHost.Proofs.Value.Sharing

/-!
# Turns taken in the course of a program

While a program runs, other threads take their turns at the shared source, and so does the thread of
the program itself.  All of that is part of how calls into the host are answered, and there it is
only required that the source is not changed but by turns.

* `Turn.handedTo`, `SentinelSource.Obtained`: what a thread was handed,
  and that these sentinels are among it;
* `Handler.TakesTurns`: the requirement, and `takesTurns_nestedHandler`:
  host functions that keep to it;
* `Obtains`, `Idle`: what programs do to the source, with the rules for sequences;
* `idle_of_assembled`: **programs that are put together from steps obtain what they
  take and nothing else**.
-/

namespace ScriptHost

open Stack Stacked Crossing

variable {M : Machine} {κ ω δ ε ε' α β ι : Type} [DecidableEq ι]

/-- What was handed to the thread, in order. -/
def Turn.handedTo (thread : ι) (turns : List (Turn ι)) : List Sentinel :=
  turns.filterMap fun
    | took t sentinel _ => if t = thread then some sentinel else none
    | reset _ => none

theorem Turn.handedTo_append (thread : ι) (turns turns' : List (Turn ι)) :
    handedTo thread (turns ++ turns') = handedTo thread turns ++ handedTo thread turns' :=
  List.filterMap_append

/-! ## The source in the course of a program -/

/-- From the first state of the source to the second, threads have taken their turns, and among what
was handed to this one are these sentinels, in this order. -/
def SentinelSource.Obtained (thread : ι) (source : SentinelSource) (sentinels : List Sentinel)
    (source' : SentinelSource) : Prop :=
  ∃ turns, Runs Turns source turns source' ∧ sentinels.Sublist (Turn.handedTo thread turns)

namespace SentinelSource.Obtained

variable {thread : ι} {source source' source'' : SentinelSource} {as bs : List Sentinel}

theorem refl (thread : ι) (source : SentinelSource) : source.Obtained thread [] source :=
  ⟨[], .nil source, .slnil⟩

theorem trans (h : source.Obtained thread as source') (h' : source'.Obtained thread bs source'') :
    source.Obtained thread (as ++ bs) source'' := by
  obtain ⟨turns, hturns, has⟩ := h
  obtain ⟨turns', hturns', hbs⟩ := h'
  exact ⟨turns ++ turns', hturns.append hturns', Turn.handedTo_append thread _ _ ▸ has.append hbs⟩

theorem weaken (h : source.Obtained thread as source') (hbs : bs.Sublist as) :
    source.Obtained thread bs source' :=
  let ⟨turns, hturns, has⟩ := h
  ⟨turns, hturns, hbs.trans has⟩

theorem nil (h : source.Obtained thread as source') : source.Obtained thread [] source' :=
  h.weaken (List.nil_sublist as)

theorem others (h : source.Obtained thread as source') (h' : source'.Obtained thread [] source'') :
    source.Obtained thread as source'' := by
  have := h.trans h'
  rwa [List.append_nil] at this

theorem take (h : source.Obtained thread as source') :
    source.Obtained thread (as ++ [source'.take.1]) source'.take.2 := by
  refine h.trans ⟨_, .singleton (.took thread source'), ?_⟩
  simp [Turn.handedTo]

end SentinelSource.Obtained

/-- A call into the host changes the source only by turns of the threads `ι`. -/
def NativeResult.TakesTurns (ι : Type) (source : SentinelSource) :
    NativeResult M κ (HostState δ) → Prop
  | .ended _ w | .panicked _ w => ∃ turns : List (Turn ι),
    Runs SentinelSource.Turns source turns w.host.sentinels
  | .exhausted => True

/-- All calls into the host do. -/
def Handler.TakesTurns (ι : Type) (handler : Handler M κ (HostState δ)) : Prop :=
  ∀ k this args w, (handler k this args w).TakesTurns ι w.host.sentinels

/-- How a program ends of which the thread has obtained the sentinels `as` on success. -/
def obtained (thread : ι) (source : SentinelSource) (as : α → List Sentinel) :
    Post M κ (HostState δ) ε α where
  ok a s := source.Obtained thread (as a) s.world.host.sentinels
  error _ s := source.Obtained thread [] s.world.host.sentinels
  panicked _ w := source.Obtained thread [] w.host.sentinels

/-- Run for the thread, which has obtained the sentinels `before`, the program succeeds with those
of `after` obtained.  However it ends, the source has been changed only by turns. -/
def Obtains (handler : Handler M κ (HostState δ)) (thread : ι) (x : Stacked M κ (HostState δ) ε α)
    (before : List Sentinel) (after : α → List Sentinel) : Prop :=
  ∀ source s, source.Obtained thread before s.world.host.sentinels →
    x.wp handler (obtained thread source after) s

/-- The program obtains nothing; what others do to the source meanwhile is done by turns. -/
def Idle (handler : Handler M κ (HostState δ)) (thread : ι) (x : Stacked M κ (HostState δ) ε α) :
    Prop :=
  ∀ s, x.wp handler (obtained thread s.world.host.sentinels fun _ => []) s

section

variable {handler : Handler M κ (HostState δ)} {thread : ι} {before : List Sentinel}

theorem idle_pure (a : α) : Idle handler thread (pure a : Stacked M κ (HostState δ) ε α) :=
  fun _ => .refl _ _

theorem idle_fail (e : ε) : Idle handler thread (fail e : Stacked M κ (HostState δ) ε α) :=
  fun _ => .refl _ _

theorem idle_read (f : Session M κ (HostState δ) → α) :
    Idle handler thread (read f : Stacked M κ (HostState δ) ε α) := fun _ => .refl _ _

theorem idle_update {f : Session M κ (HostState δ) → Session M κ (HostState δ)}
    (hf : ∀ s, (f s).world.host = s.world.host) :
    Idle handler thread (update f : Stacked M κ (HostState δ) ε Unit) := by
  intro s
  show s.world.host.sentinels.Obtained thread [] (f s).world.host.sentinels
  rw [hf s]
  exact .refl _ _

theorem Idle.after {x : Stacked M κ (HostState δ) ε α} {source : SentinelSource}
    {s : Session M κ (HostState δ)} (hx : Idle handler thread x)
    (hs : source.Obtained thread [] s.world.host.sentinels) :
    x.wp handler (obtained thread source fun _ => []) s :=
  wp_mono (hx s) (fun _ _ h => hs.trans h) (fun _ _ h => hs.trans h) fun _ _ h => hs.trans h

theorem Idle.bind {x : Stacked M κ (HostState δ) ε α} {f : α → Stacked M κ (HostState δ) ε β}
    (hx : Idle handler thread x) (hf : ∀ a, Idle handler thread (f a)) :
    Idle handler thread (x >>= f) := fun s => wp_then (hx s) fun a _ hs' => (hf a).after hs'

theorem Idle.attempt {x : Stacked M κ (HostState δ) ε α} (hx : Idle handler thread x) :
    Idle handler thread (x.attempt : Stacked M κ (HostState δ) ε' (Except ε α)) := by
  intro s
  rw [wp_attempt]
  exact hx s

/-- While script runs, the source is changed by the calls into the host. -/
theorem idle_act (hh : handler.TakesTurns ι) (f : M.State → Act M.State α) :
    Idle handler thread (act f : Stacked M κ (HostState δ) ε (Except Failure α)) := by
  intro s
  rw [wp_act]
  generalize hw : s.world = w
  generalize f w.machine = run
  clear hw
  induction run generalizing w with
  | done | crash => exact .refl _ _
  | exhausted => trivial
  | native t function this args next ih =>
    rw [Act.drive]
    cases w.natives[function.index]? with
    | none => exact ih t _ w
    | some body =>
      have hcall := hh body this args { w with machine := t }
      dsimp only
      cases hr : handler body this args { w with machine := t } with
      | ended reply w' =>
        rw [hr] at hcall
        obtain ⟨turns, hturns⟩ := hcall
        have hcalled : w.host.sentinels.Obtained thread [] w'.host.sentinels :=
          ⟨turns, hturns, List.nil_sublist _⟩
        have hrest := ih w'.machine reply w'
        dsimp only
        split at hrest
        · exact hcalled.trans hrest
        · exact hcalled.trans hrest
        · trivial
      | panicked payload w' =>
        rw [hr] at hcall
        obtain ⟨turns, hturns⟩ := hcall
        exact ⟨turns, hturns, List.nil_sublist _⟩
      | exhausted => trivial

/-- **An assembled program obtains nothing**, if all that it does to the host's state is to take
sentinels: what it has taken need not be looked at. -/
theorem idle_of_assembled (hh : handler.TakesTurns ι) {fatal : ε → Bool}
    {x : Stacked M κ (HostState δ) ε α} (hx : x.Assembled HostState.Takes fatal) :
    Idle handler thread x := by
  induction hx with
  | pure a => exact idle_pure a
  | fail => exact idle_fail _
  | abort e _ _ hhost => exact (idle_update hhost).bind fun _ => idle_fail e
  | unlessPoisoned e _ ih =>
    refine (idle_read _).bind fun poisoned => ?_
    cases poisoned with
    | true => exact idle_fail e
    | false => exact ih
  | panic | make => exact fun _ => .refl _ _
  | read f => exact idle_read f
  | update _ hhost => exact idle_update hhost
  | @withHost _ _ _ f hf =>
    intro s
    show s.world.host.sentinels.Obtained thread [] (f s.world.host).2.sentinels
    rw [hf s.world.host]
    exact (SentinelSource.Obtained.refl thread s.world.host.sentinels).take.nil
  | @act _ _ _ f _ => exact idle_act hh f
  | mapError _ _ ih =>
    intro s
    rw [wp_mapError]
    exact ih s
  | attempt _ _ _ _ ihx ihok _ ihkeeps =>
    refine ihx.attempt.bind fun result => ?_
    cases result with
    | ok a => exact ihok a
    | error e => exact ihkeeps e
  | bindGiven _ hgives _ ihx ihf =>
    intro s
    refine wp_bind_of (wp_and (ihx s) (hgives handler s)) (fun a s' h => (ihf a h.2).after h.1)
      (fun _ _ h => h.1) fun _ _ h => h.1

theorem Stacked.Assembled.idle {x : Stacked M κ (HostState δ) ε α}
    (hx : x.Assembled HostState.Takes fun _ => false) (hh : handler.TakesTurns ι) :
    Idle handler thread x := idle_of_assembled hh hx

/-! ## What is obtained -/

theorem Obtains.bind {x : Stacked M κ (HostState δ) ε α} {f : α → Stacked M κ (HostState δ) ε β}
    {between : α → List Sentinel} {after : β → List Sentinel}
    (hx : Obtains handler thread x before between)
    (hf : ∀ a, Obtains handler thread (f a) (between a) after) :
    Obtains handler thread (x >>= f) before after :=
  fun source s hs => wp_then (hx source s hs) fun a s' hs' => hf a source s' hs'

theorem Idle.obtains {x : Stacked M κ (HostState δ) ε α} (hx : Idle handler thread x) :
    Obtains handler thread x before fun _ => before :=
  fun _ s hs => wp_mono (hx s) (fun _ _ h => hs.others h) (fun _ _ h => (hs.others h).nil)
    fun _ _ h => (hs.others h).nil

theorem Idle.then {x : Stacked M κ (HostState δ) ε α} {f : α → Stacked M κ (HostState δ) ε β}
    {after : β → List Sentinel} (hx : Idle handler thread x)
    (hf : ∀ a, Obtains handler thread (f a) before after) :
    Obtains handler thread (x >>= f) before after := hx.obtains.bind hf

theorem obtains_pure {a : α} {after : α → List Sentinel} (h : after a = before) :
    Obtains handler thread (pure a : Stacked M κ (HostState δ) ε α) before after := by
  intro source s hs
  show source.Obtained thread (after a) _
  rwa [h]

theorem Obtains.attempt {x : Stacked M κ (HostState δ) ε α} {after : α → List Sentinel}
    (hx : Obtains handler thread x before after) :
    Obtains handler thread (x.attempt : Stacked M κ (HostState δ) ε' (Except ε α)) before
      fun | .ok a => after a | .error _ => [] := by
  intro source s hs
  rw [wp_attempt]
  exact hx source s hs

theorem Idle.obtains_of_fails {x : Stacked M κ (HostState δ) ε α} {after : α → List Sentinel}
    (hx : Idle handler thread x) (hfails : x.Fails) : Obtains handler thread x before after := by
  intro source s hs
  have hend := hx.obtains source s hs
  unfold wp at hend ⊢
  cases hrun : x handler s with
  | ok a s' => exact absurd hrun (hfails handler s a s')
  | error e s' => rw [hrun] at hend; exact hend
  | panicked payload w => rw [hrun] at hend; exact hend
  | exhausted => trivial

theorem Obtains.idle {x : Stacked M κ (HostState δ) ε α} {after : α → List Sentinel}
    (hx : Obtains handler thread x [] after) : Idle handler thread x :=
  fun s => wp_mono (hx _ s (.refl _ _)) (fun _ _ h => h.nil) (fun _ _ h => h) fun _ _ h => h

end

/-! ## Host functions -/

/-- The run of a host function changes the source only by turns: from the state it was in when the
function was last given the state of the host, to the one that it leaves. -/
def HostRun.TakesTurns (ι : Type) : SentinelSource → HostRun (HostState δ) → Prop
  | source, .returned _ host | source, .failed _ host | source, .panicked _ host =>
    ∃ turns : List (Turn ι), Runs SentinelSource.Turns source turns host.sentinels
  | source, .askThis host next =>
    (∃ turns : List (Turn ι), Runs SentinelSource.Turns source turns host.sentinels) ∧
      ∀ this host', (next this host').TakesTurns ι host'.sentinels

/-- All host functions do. -/
def HostFunctions.TakeTurns (ι : Type) (functions : HostFunctions δ) : Prop :=
  ∀ function args host, (functions function args host).TakesTurns ι host.sentinels

section

variable {handler : Handler M BoundFunction (HostState δ)} {thread : ι}
  {functions : HostFunctions δ} (hh : handler.TakesTurns ι)
include hh

/-- The host function gives the state of the host back, changed by turns. -/
theorem carryOut_obtained (m : Marshaller) {run : HostRun (HostState δ)}
    {s : Session M BoundFunction (HostState δ)} (hrun : run.TakesTurns ι s.world.host.sentinels) :
    (carryOut m run : Crossing M δ EngineError HostResult).wp handler
      (obtained thread s.world.host.sentinels fun _ => []) s := by
  have hturns {source source' : SentinelSource}
      (h : ∃ turns : List (Turn ι), Runs SentinelSource.Turns source turns source') :
      source.Obtained thread [] source' :=
    let ⟨turns, hturns⟩ := h
    ⟨turns, hturns, List.nil_sublist _⟩
  induction run generalizing s with
  | returned v host => exact hturns hrun
  | failed failure host => exact hturns hrun
  | panicked payload host => exact hturns hrun
  | askThis host next ih =>
    have hthis : Idle handler thread (readThis m : Crossing M δ Error HostValue) :=
      idle_of_assembled hh (assembled_readThis m)
    have hgiven := hturns hrun.1
    unfold carryOut
    rw [wp_bind, wp_withHost]
    refine wp_then (hthis.attempt.after hgiven) fun this s₂ hs₂ => ?_
    rw [wp_bind, wp_read]
    have hrest := ih this s₂.world.host (hrun.2 this s₂.world.host)
    exact wp_mono hrest (fun _ _ h => hs₂.trans h) (fun _ _ h => hs₂.trans h) fun _ _ h =>
      hs₂.trans h

theorem idle_invoke (hf : functions.TakeTurns ι) (bound : BoundFunction) :
    Idle handler thread (invoke functions bound : Crossing M δ EngineError Bool) := by
  have hthrow (kind : ErrorKind) (e : Error) :
      Idle handler thread (throwInto kind e : Crossing M δ EngineError Bool) :=
    idle_of_assembled hh (assembled_throwInto kind e)
  unfold invoke
  refine (assembled_depth.idle hh).bind fun n => ?_
  refine (idle_of_assembled hh (assembled_readArguments _ _ 1)).bind fun args => ?_
  cases args with
  | error e => exact hthrow _ e
  | ok args =>
    intro s
    rw [wp_bind, wp_read]
    refine wp_then (carryOut_obtained hh _ (hf _ args s.world.host)) fun result s' hs' => ?_
    cases result with
    | returned v =>
      have hpush : Idle handler thread (bound.marshaller.push v : Crossing M δ Error Unit) :=
        idle_of_assembled hh (bound.marshaller.assembled_push v)
      refine wp_then (hpush.attempt.after hs') fun pushed s'' hs'' => ?_
      cases pushed with
      | ok _ => exact (idle_pure _).after hs''
      | error e => exact (hthrow _ e).after hs''
    | failed failure =>
      dsimp only
      split
      · exact (hthrow _ _).after hs'
      · exact (((assembled_pushError _ _).idle hh).bind fun _ => idle_fail _).after hs'

end

/-- The caller of a host function finds the source as its program has left it. -/
theorem takesTurns_ofOutcome {thread : ι} {source : SentinelSource}
    {x : Stacked M κ (HostState δ) EngineError Bool} {handler : Handler M κ (HostState δ)}
    {s : Session M κ (HostState δ)} (h : x.wp handler (obtained thread source fun _ => []) s) :
    (NativeResult.ofOutcome (x handler s)).TakesTurns ι source := by
  have hturns {source' : SentinelSource} (h : source.Obtained thread [] source') :
      ∃ turns : List (Turn ι), Runs SentinelSource.Turns source turns source' :=
    let ⟨turns, hturns, _⟩ := h
    ⟨turns, hturns⟩
  unfold wp at h
  cases hrun : x handler s with
  | ok returnsTop s' =>
    rw [hrun] at h
    unfold NativeResult.ofOutcome
    cases hp : s'.poison <;> simp only [hp] <;> exact hturns h
  | error e s' =>
    rw [hrun] at h
    unfold NativeResult.ofOutcome
    cases hp : s'.poison <;> cases e <;> simp only [hp] <;> exact hturns h
  | panicked payload w =>
    rw [hrun] at h
    exact hturns h
  | exhausted => trivial

/-- **Calls into the host keep to turns** if the host functions do, however deep they nest. -/
theorem takesTurns_nestedHandler {functions : HostFunctions δ} (hf : functions.TakeTurns ι)
    (thread : ι) : ∀ depth, Handler.TakesTurns ι
      (nestedHandler (invoke functions) depth : Handler M BoundFunction (HostState δ))
  | 0 => fun _ _ _ _ => trivial
  | depth + 1 => fun bound _ _ _ =>
    have hinvoke : Idle _ thread (invoke functions bound : Crossing M δ EngineError Bool) :=
      idle_invoke (takesTurns_nestedHandler hf thread depth) hf bound
    takesTurns_ofOutcome (hinvoke _)

end ScriptHost
