import ScriptHost.Proofs.Crossing.Thrown
import ScriptHost.Proofs.Crossing.Turns
import ScriptHost.Proofs.Machine.Silent

/-!
# Conversions among other threads

A conversion takes from the shared source once for each value that a sentinel stands in for, and
does nothing else to it.  Between two such turns it looks at the machine, and then anything may
happen to the source: script calls host functions, and other threads take their turns
(`Machine.amid` makes room for them before every look).  As long as the source is not changed but by
turns, the whole conversion is a sequence of turns, and the sentinels in its result are some that
were handed to its own thread.

* `HostValue.sentinels`: the sentinels in a value;
* `Marshaller.obtains_pop`: **a conversion takes the sentinels of its result**;
* `shared_sentinels`: **the sentinels in a process**.
-/

namespace ScriptHost

open Stack Stacked Crossing

variable {M : Machine} {κ ω δ ε ε' α β ι : Type} [DecidableEq ι]

namespace HostValue

mutual

/-- The sentinels in a value, from left to right. -/
def sentinels : HostValue → List Sentinel
  | complexObject sentinel => [sentinel]
  | array items => itemSentinels items
  | map entries => entrySentinels entries
  | _ => []

def itemSentinels : List HostValue → List Sentinel
  | [] => []
  | v :: rest => sentinels v ++ itemSentinels rest

def entrySentinels : List (HostValue × HostValue) → List Sentinel
  | [] => []
  | (key, v) :: rest => sentinels key ++ sentinels v ++ entrySentinels rest

end

theorem itemSentinels_append (vs us : List HostValue) :
    itemSentinels (vs ++ us) = itemSentinels vs ++ itemSentinels us := by
  induction vs with
  | nil => rfl
  | cons v rest ih => rw [List.cons_append, itemSentinels, itemSentinels, ih, List.append_assoc]

theorem entrySentinels_append (es fs : List (HostValue × HostValue)) :
    entrySentinels (es ++ fs) = entrySentinels es ++ entrySentinels fs := by
  induction es with
  | nil => rfl
  | cons e rest ih =>
    rw [List.cons_append, entrySentinels, entrySentinels, ih, List.append_assoc, List.append_assoc,
      List.append_assoc]

theorem entrySentinels_single (name : String) (v : HostValue) :
    entrySentinels [(string name, v)] = sentinels v := by
  simp [entrySentinels, sentinels]

end HostValue

/-! ## Conversions -/

section

variable {handler : Handler M BoundFunction (HostState δ)} {thread : ι} {before : List Sentinel}

/-- A failure is passed on, and with it goes what was obtained. -/
theorem obtains_ofExcept {result : Except ε α} {after : α → List Sentinel} : Obtains handler thread
    (Crossing.ofExcept result : Crossing M δ ε α)
    (match result with | .ok a => after a | .error _ => []) after := by
  intro source s hs
  cases result with
  | ok a => exact hs
  | error e => exact hs

namespace Marshaller

variable (m : Marshaller)

/-- Of these sentinels in a result, those that were taken for it:
none if something else stands in. -/
def drawn (sentinels : List Sentinel) : List Sentinel := if m.complex.isNone then sentinels else []

omit [DecidableEq ι] in
theorem drawn_append (as bs : List Sentinel) : m.drawn (as ++ bs) = m.drawn as ++ m.drawn bs := by
  unfold drawn
  split <;> rfl

omit [DecidableEq ι] in
@[simp] theorem drawn_nil : m.drawn [] = [] := by
  unfold drawn
  split <;> rfl

theorem obtains_standIn : Obtains handler thread (m.standIn : Crossing M δ ε HostValue) before
    fun v => before ++ m.drawn v.sentinels := by
  intro source s hs
  unfold standIn drawn
  cases m.complex with
  | some v =>
    rw [wp_pure]
    simpa [obtained] using hs
  | none => exact hs.take

/-- What is read holds the sentinels that were taken for it. -/
def ReadsObtained (m : Marshaller) (handler : Handler M BoundFunction (HostState δ)) (thread : ι)
    (reader : Reader M δ) : Prop :=
  ∀ slot budget before, Obtains handler thread (reader slot budget) before
    fun r => before ++ m.drawn r.1.sentinels

variable {m} (hh : handler.TakesTurns ι)
include hh

theorem obtains_readItems {reader : Reader M δ} (hreader : m.ReadsObtained handler thread reader)
    (array count next budget : Nat) (done : List HostValue) :
    Obtains handler thread (readItems reader array count next budget done)
      (before ++ m.drawn (HostValue.itemSentinels done.reverse))
      fun r => before ++ m.drawn (HostValue.itemSentinels r.1) := by
  induction count generalizing next budget done with
  | zero => exact obtains_pure rfl
  | succ count ih =>
    rw [readItems_succ]
    refine (assembled_depth.idle hh).then fun base => ?_
    refine ((assembled_check (assembled_getIndex array next)).keeping.idle hh).then fun _ => ?_
    refine (hreader base budget _).attempt.bind fun item => ?_
    refine ((assembled_setDepth base).idle hh).then fun _ => ?_
    refine obtains_ofExcept.bind fun item => ?_
    have hrest := ih (next + 1) item.2 (item.1 :: done)
    rwa [List.reverse_cons, HostValue.itemSentinels_append, HostValue.itemSentinels,
      HostValue.itemSentinels, List.append_nil, drawn_append, ← List.append_assoc] at hrest

theorem obtains_readEntries {reader : Reader M δ} (hreader : m.ReadsObtained handler thread reader)
    (object : Nat) (keys : List (List UInt8)) (budget : Nat) (done : List (HostValue × HostValue)) :
    Obtains handler thread (readEntries reader object keys budget done)
      (before ++ m.drawn (HostValue.entrySentinels done.reverse))
      fun r => before ++ m.drawn (HostValue.entrySentinels r.1) := by
  induction keys generalizing budget done with
  | nil => exact obtains_pure rfl
  | cons key rest ih =>
    unfold readEntries
    refine (assembled_depth.idle hh).then fun base => ?_
    refine ((assembled_check (assembled_getProp object key)).keeping.idle hh).then fun _ => ?_
    refine ((assembled_slotType base).idle hh).then fun kind => ?_
    split
    · exact ((assembled_setDepth base).idle hh).then fun _ => ih budget done
    · refine (hreader base budget _).attempt.bind fun item => ?_
      refine ((assembled_setDepth base).idle hh).then fun _ => ?_
      refine ((assembled_hostText key).keeping.idle hh).then fun name => ?_
      refine obtains_ofExcept.bind fun item => ?_
      have hrest := ih item.2 ((.string name, item.1) :: done)
      rwa [List.reverse_cons, HostValue.entrySentinels_append, HostValue.entrySentinels_single,
        drawn_append, ← List.append_assoc] at hrest

theorem readsObtained_read (levels : Nat) :
    m.ReadsObtained handler thread (m.read levels : Reader M δ) := by
  -- What holds no sentinel needs no turn.
  have hleaf {before : List Sentinel} (v : HostValue) (budget : Nat) (hv : v.sentinels = []) :
      Obtains handler thread (pure (v, budget) : Crossing M δ Error (HostValue × Nat)) before
        fun r => before ++ m.drawn r.1.sentinels := obtains_pure (by simp [hv])
  induction levels with
  | zero => exact fun _ _ _ => (idle_fail _).obtains_of_fails (fails_fail _)
  | succ levels ih =>
    intro slot budget before
    have hstandIn : Obtains handler thread (m.standIn >>= fun v => pure (v, budget) :
        Crossing M δ Error (HostValue × Nat)) before fun r => before ++ m.drawn r.1.sentinels :=
      m.obtains_standIn.bind fun v => obtains_pure rfl
    unfold read
    refine ((assembled_slotType slot).idle hh).then fun kind => ?_
    cases kind with
    | none =>
      exact ((assembled_unclassified (assembled_poison _)).keeping.idle hh).obtains_of_fails
        (fails_mapError _ (fails_poison _))
    | undefined | null => exact hleaf .null budget (by simp [HostValue.sentinels])
    | boolean =>
      exact (idle_read _).then fun b => hleaf (.boolean b) budget (by simp [HostValue.sentinels])
    | number =>
      exact (idle_read _).then fun x => hleaf (.number x) budget (by simp [HostValue.sentinels])
    | string =>
      exact (idle_read _).then fun _ => ((assembled_hostText _).keeping.idle hh).then fun s =>
        hleaf (.string s) budget (by simp [HostValue.sentinels])
    | array =>
      refine ((assembled_check (assembled_arrayLength slot)).keeping.idle hh).then fun length => ?_
      refine ((m.assembled_charge budget length).keeping.idle hh).then fun left => ?_
      have hnone : before = before ++ m.drawn (HostValue.itemSentinels [].reverse) := by
        rw [List.reverse_nil, HostValue.itemSentinels, drawn_nil, List.append_nil]
      refine Obtains.bind (hnone ▸ obtains_readItems hh ih slot length 0 left []) fun r => ?_
      exact obtains_pure (by rw [HostValue.sentinels])
    | object =>
      refine ((assembled_check (assembled_ownKeys slot)).keeping.idle hh).then fun keys => ?_
      refine ((m.assembled_charge budget _).keeping.idle hh).then fun left => ?_
      have hnone : before = before ++ m.drawn (HostValue.entrySentinels [].reverse) := by
        rw [List.reverse_nil, HostValue.entrySentinels, drawn_nil, List.append_nil]
      refine Obtains.bind (hnone ▸ obtains_readEntries hh ih slot keys left []) fun r => ?_
      exact obtains_pure (by rw [HostValue.sentinels])
    | function | other => exact hstandIn

/-- **A conversion takes the sentinels of its result**, by turns of its thread. -/
theorem obtains_pop : Obtains handler thread (m.pop : Crossing M δ Error HostValue) before
    fun v => before ++ m.drawn v.sentinels := by
  unfold pop
  refine (assembled_depth.idle hh).then fun n => ?_
  cases n with
  | zero =>
    exact ((assembled_unclassified (assembled_poison _)).keeping.idle hh).obtains_of_fails
      (fails_mapError _ (fails_poison _))
  | succ top =>
    refine (readsObtained_read hh _ top m.maxElements before).attempt.bind fun value => ?_
    refine ((assembled_setDepth top).idle hh).then fun _ => ?_
    exact obtains_ofExcept.bind fun r => obtains_pure rfl

end Marshaller

end

/-! ## The sentinels in a process -/

/-- The machine among other threads: before it does anything for the host, a call of the host
function `others` lets them have their turns. -/
def Machine.amid (M : Machine) (others : NativeId) : Machine :=
  let wait {α : Type} (f : M.State → Act M.State α) (s : M.State) : Act M.State α :=
    .native s others .undefined [] fun s' _ => f s'
  { M with
    append := fun ref v => wait (M.append ref v)
    define := fun ref name v => wait (M.define ref name v)
    defineHidden := fun ref name v => wait (M.defineHidden ref name v)
    length := fun ref => wait (M.length ref)
    element := fun ref n => wait (M.element ref n)
    keys := fun ref => wait (M.keys ref)
    isEnumerable := fun ref name => wait (M.isEnumerable ref name)
    hasOwn := fun ref name => wait (M.hasOwn ref name)
    has := fun ref name => wait (M.has ref name)
    get := fun ref name => wait (M.get ref name)
    setGlobal := fun name v => wait (M.setGlobal name v)
    toObject := fun v => wait (M.toObject v)
    toText := fun v => wait (M.toText v)
    run := fun source filename => wait (M.run source filename)
    call := fun ref this args => wait (M.call ref this args) }

namespace Marshaller

/-- **The sentinels in a process.**  Whatever turns the threads have taken so far, two sentinels
that were handed out are the same exactly if nobody has reset the source between the two turns, and
one that was built for its turn is of a later generation than all that were handed out before it.
And a conversion that any of the threads carries out now, in any context, continues these turns:
however it ends, it has changed the source only by further turns, those of other threads among them,
and the sentinels of its result have been handed to its thread in such turns. -/
theorem shared_sentinels {turns : List (Turn ι)} {source : SentinelSource}
    (h : Runs SentinelSource.Turns .fresh turns source) :
    (∀ before between after t u a b x y,
      turns = before ++ .took t a x :: (between ++ .took u b y :: after) →
        (a = b ↔ ¬ Turn.Resets between) ∧ (y = true → a.generation < b.generation)) ∧
    ∀ (M : Machine) (δ : Type) (m : Marshaller) (thread : ι)
      (handler : Handler M BoundFunction (HostState δ)) (s : Session M BoundFunction (HostState δ)),
      handler.TakesTurns ι → m.complex = none → s.world.host.sentinels = source →
        let Continues (sentinels : List Sentinel) (w : World M BoundFunction (HostState δ)) :=
          ∃ more, Runs SentinelSource.Turns .fresh (turns ++ more) w.host.sentinels ∧
            sentinels.Sublist (Turn.handedTo thread more)
        (m.pop : Crossing M δ Error HostValue).wp handler
          ⟨fun v s' => Continues v.sentinels s'.world, fun _ s' => Continues [] s'.world,
            fun _ w => Continues [] w⟩ s := by
  refine ⟨?_, ?_⟩
  · rintro before between after t u a b x y rfl
    exact ⟨SentinelSource.same_iff h, fun hy => SentinelSource.newer_of_built (hy ▸ h)⟩
  · rintro M δ m thread handler s hh hm rfl
    have hobtains : Obtains handler thread (m.pop : Crossing M δ Error HostValue)
      [] _ := obtains_pop hh
    have hpop := hobtains _ s (.refl _ _)
    have hcontinue {as : List Sentinel} {w : World M BoundFunction (HostState δ)}
        (hw : s.world.host.sentinels.Obtained thread as w.host.sentinels) :
        ∃ more, Runs SentinelSource.Turns .fresh (turns ++ more) w.host.sentinels ∧
          as.Sublist (Turn.handedTo thread more) :=
      let ⟨more, hmore, has⟩ := hw
      ⟨more, h.append hmore, has⟩
    refine wp_mono hpop (fun v s' hs' => hcontinue ?_) (fun _ _ hs' => hcontinue hs')
      fun _ _ hw => hcontinue hw
    simpa [obtained, drawn, hm] using hs'

/-- Two functions in one array, and a thread that resets the source whenever it can: a sentinel that
is handed out is never the same as one before. -/
theorem shared_sentinels_amid :
    let turns : List (Turn Bool) :=
      [.took false ⟨1⟩ true, .took true ⟨1⟩ false, .reset false, .took true ⟨2⟩ true]
    let m : Marshaller := ⟨none, 8, 64⟩
    let handler : Handler (Machine.silent.amid ⟨0⟩) BoundFunction (HostState Unit) :=
      fun _ _ _ w => .ended (.ok .undefined)
        { w with host := { w.host with sentinels := w.host.sentinels.reset } }
    let heap : List DataObject :=
      [.plain [], .function, .array [some (.object 1), some (.object 1)]]
    let world (source : SentinelSource) : World (Machine.silent.amid ⟨0⟩) BoundFunction
        (HostState Unit) :=
      ⟨heap, #[⟨⟨0⟩, m⟩], ⟨source, ()⟩⟩
    let items := [HostValue.complexObject ⟨3⟩, .complexObject ⟨4⟩]
    (⟨1⟩ : Sentinel) ≠ ⟨2⟩ ∧
      m.pop handler ⟨world ⟨some ⟨2⟩, 2⟩, #[.object 2], none⟩ =
        .ok (.array items) ⟨world ⟨some ⟨4⟩, 4⟩, #[], none⟩ ∧
      ∃ more, Runs SentinelSource.Turns .fresh (turns ++ more) ⟨some ⟨4⟩, 4⟩ ∧
        [(⟨3⟩ : Sentinel), ⟨4⟩].Sublist (Turn.handedTo true more) := by
  intro turns m handler heap world items
  have h : Runs SentinelSource.Turns .fresh turns ⟨some ⟨2⟩, 2⟩ :=
    .cons (.took _ _) (.cons (.took _ _) (.cons (.reset _ _) (.singleton (.took _ _))))
  have hhandler : handler.TakesTurns Bool :=
    fun _ _ _ w => ⟨[.reset false], .singleton (.reset _ _)⟩
  have hrun : m.pop handler ⟨world ⟨some ⟨2⟩, 2⟩, #[.object 2], none⟩ =
      .ok (.array items) ⟨world ⟨some ⟨4⟩, 4⟩, #[], none⟩ := by cbv
  obtain ⟨hsame, hpop⟩ := shared_sentinels h
  have hiff := (hsame [.took false ⟨1⟩ true] [.reset false] [] true true ⟨1⟩ ⟨2⟩ false true rfl).1
  refine ⟨fun heq => hiff.mp heq ⟨false, List.mem_singleton_self _⟩, hrun, ?_⟩
  have hok := ok_of_wp (hpop _ Unit m true handler _ hhandler rfl rfl) hrun
  simpa [items, HostValue.sentinels, HostValue.itemSentinels] using hok

end Marshaller

end ScriptHost
