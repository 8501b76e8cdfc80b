import ScriptHost.Proofs.Crossing.Assembled
import ScriptHost.Proofs.Crossing.Thrown
import ScriptHost.Proofs.Crossing.Unfolding
import ScriptHost.Proofs.Stack.Data

/-!
# Reading as a calculation

What the reading of data comes to is calculated from the heap alone (`Marshaller.converted`),
without a machine: the value, or the first error that is met on the way.

* `converted`, with `convertedItems` and `convertedEntries` for what containers hold;
* `read_gives`: **the reading comes to what is calculated** and changes nothing but the slots
  (`Marshaller.Keeps`), so it runs no script;
* `converted_congr`: only elements and enumerable members count, and only those of the objects that
  are reached (`AgreeFrom`).
-/

namespace ScriptHost

open Stack Stacked Crossing

/-! ## The calculation -/

namespace Marshaller

variable (m : Marshaller) (heap : DataHeap) (standIn : HostValue)

/-- The values one after the other, each with what the ones before it have left of the budget. -/
def convertedItems (one : ScriptValue → Nat → Except Error (HostValue × Nat)) :
    List ScriptValue → (budget : Nat) → Except Error (List HostValue × Nat)
  | [], budget => .ok ([], budget)
  | v :: vs, budget => do
    let (item, budget) ← one v budget
    let (items, budget) ← convertedItems one vs budget
    pure (item :: items, budget)

/-- The members one after the other.  Functions are left out, and a key is looked at before it is
asked what has become of its value. -/
def convertedEntries (one : ScriptValue → Nat → Except Error (HostValue × Nat)) :
    List Member → (budget : Nat) → Except Error (List (HostValue × HostValue) × Nat)
  | [], budget => .ok ([], budget)
  | p :: rest, budget =>
    if isFunction heap p.value then convertedEntries one rest budget
    else do
      let name ← hostText (Text.encodeUnits p.key)
      let (value, budget) ← one p.value budget
      let (entries, budget) ← convertedEntries one rest budget
      pure ((.string name, value) :: entries, budget)

/-- The value as a host value, with `standIn` for what has no host form, and what is left of the
budget; `levels` is how much deeper it may still nest. -/
def converted : (levels : Nat) → ScriptValue → (budget : Nat) → Except Error (HostValue × Nat)
  | 0, _, _ => .error (.typeError (tooDeep m.maxDepth))
  | levels + 1, v, budget =>
    match v with
    | .undefined | .null => .ok (.null, budget)
    | .boolean b => .ok (.boolean b, budget)
    | .number x => .ok (.number x, budget)
    | .string text => do
      let text ← hostText (Text.encodeUnits text)
      pure (.string text, budget)
    | .symbol _ | .bigint _ => .ok (standIn, budget)
    | .object ref =>
      match heap ref with
      | some (.array items) => do
        let budget ← m.charge budget items.length
        let (items, budget) ← convertedItems (converted levels)
          (items.map (·.getD .undefined)) budget
        pure (.array items, budget)
      | some (.plain members) => do
        let shown := members.filter Member.enumerable
        let budget ← m.charge budget shown.length
        let (entries, budget) ← convertedEntries heap (converted levels) shown budget
        pure (.map entries, budget)
      | _ => .ok (standIn, budget)

end Marshaller

/-! ## What a reading keeps -/

variable {M : Machine} {κ δ ε α β : Type} {handler : Handler M BoundFunction (HostState δ)}
  {s s₁ : Session M BoundFunction (HostState δ)} {a : Array ScriptValue}

/-- Whether a run has come to a value, with no native and with this source of sentinels. -/
def Outcome.leaves (source : SentinelSource) : Outcome M κ (HostState δ) ε α → Bool
  | .ok _ s => s.world.natives.isEmpty && decide (s.world.host.sentinels = source)
  | _ => false

namespace Marshaller

variable (m : Marshaller)

/-- What stands for a value without a host form: the override, or else the current sentinel. -/
def standInFor (host : HostState δ) : HostValue :=
  m.complex.getD (.complexObject host.sentinels.take.1)

/-- From `s` to `s'` nothing has changed but the slots, which now are `slots`; a sentinel may have
been built. -/
structure Keeps (s : Session M BoundFunction (HostState δ)) (slots : Array ScriptValue)
    (s' : Session M BoundFunction (HostState δ)) : Prop where
  slots : s'.slots = slots
  poison : s'.poison = none
  machine : s'.world.machine = s.world.machine
  standIn : m.standInFor s'.world.host = m.standInFor s.world.host

/-- The run comes to what has been calculated, and nothing has changed but the slots. -/
def Gives (handler : Handler M BoundFunction (HostState δ))
    (s : Session M BoundFunction (HostState δ)) (slots : Array ScriptValue)
    (x : Crossing M δ Error α) (r : Except Error α) (s₁ : Session M BoundFunction (HostState δ)) :
    Prop :=
  x.ends handler (fun v s' => m.Keeps s slots s' ∧ r = .ok v)
    (fun e s' => m.Keeps s slots s' ∧ r = .error e) s₁

variable {m}

theorem Keeps.setSlots (h : m.Keeps s a s₁) (b : Array ScriptValue) :
    m.Keeps s b { s₁ with slots := b } := ⟨rfl, h.poison, h.machine, h.standIn⟩

theorem take_take (source : SentinelSource) : source.take.2.take.1 = source.take.1 := by
  obtain ⟨current, built⟩ := source
  cases current <;> rfl

/-- The same stand-in is handed out every time. -/
theorem standIn_ends {error : ε → Session M BoundFunction (HostState δ) → Prop}
    (hs : m.Keeps s a s₁) :
    (m.standIn : Crossing M δ ε HostValue).ends handler
      (fun v s' => v = m.standInFor s.world.host ∧ m.Keeps s a s') error s₁ := by
  have hstandIn := hs.standIn
  unfold standIn
  unfold standInFor at hstandIn ⊢
  cases hcomplex : m.complex with
  | some v => exact ⟨rfl, hs⟩
  | none =>
    simp only [hcomplex, Option.getD_none] at hstandIn
    refine ⟨hstandIn, hs.slots, hs.poison, hs.machine, ?_⟩
    rw [standInFor, standInFor, hcomplex]
    exact (congrArg HostValue.complexObject (take_take _)).trans hstandIn

theorem Gives.exists {x : Crossing M δ Error α} {r : Except Error α}
    (h : m.Gives handler s a x r s₁) : ∃ s', x handler s₁ = .ofResult r s' ∧ m.Keeps s a s' := by
  rcases outcome_of_ends h with ⟨v, s', hrun, hs, rfl⟩ | ⟨e, s', hrun, hs, rfl⟩
  · exact ⟨s', hrun, hs⟩
  · exact ⟨s', hrun, hs⟩

/-- A run that leaves the natives and the sentinels as they were leaves everything but the slots. -/
theorem Gives.eq_of_leaves {state : M.State} {source : SentinelSource} {slots : Array ScriptValue}
    {handler : Handler M BoundFunction (HostState Unit)} {x : Crossing M Unit Error α} {v : α}
    (h : m.Gives handler ⟨⟨state, #[], ⟨source, ()⟩⟩, slots, none⟩ a x (.ok v)
      ⟨⟨state, #[], ⟨source, ()⟩⟩, slots, none⟩)
    (hleaves : (x handler ⟨⟨state, #[], ⟨source, ()⟩⟩, slots, none⟩).leaves source = true) :
    x handler ⟨⟨state, #[], ⟨source, ()⟩⟩, slots, none⟩ =
      .ok v ⟨⟨state, #[], ⟨source, ()⟩⟩, a, none⟩ := by
  obtain ⟨⟨⟨state', natives, ⟨source', own⟩⟩, slots', poison⟩, hrun, hs⟩ := h.exists
  rw [hrun] at hleaves ⊢
  obtain ⟨hnatives, hsource⟩ := Bool.and_eq_true_iff.mp hleaves
  obtain rfl := Array.isEmpty_iff.mp hnatives
  obtain rfl := of_decide_eq_true hsource
  obtain ⟨rfl, rfl, rfl, -⟩ := hs
  rfl

theorem gives_pure (hs : m.Keeps s a s₁) (v : α) :
    m.Gives handler s a (pure v) (.ok v) s₁ := ⟨hs, rfl⟩

theorem gives_ofExcept (hs : m.Keeps s a s₁) (r : Except Error α) :
    m.Gives handler s a (Crossing.ofExcept r) r s₁ := by
  cases r <;> exact ⟨hs, rfl⟩

theorem Gives.bind {x : Crossing M δ Error α} {r : Except Error α} {f : α → Crossing M δ Error β}
    {g : α → Except Error β} (h : m.Gives handler s a x r s₁)
    (hf : ∀ v s', m.Keeps s a s' → m.Gives handler s a (f v) (g v) s') :
    m.Gives handler s a (x >>= f) (r >>= g) s₁ := by
  unfold Gives
  rw [ends_bind]
  refine ends_mono h ?_ ?_
  · rintro v s' ⟨hs, rfl⟩
    exact hf v s' hs
  · rintro e s' ⟨hs, rfl⟩
    exact ⟨hs, rfl⟩

/-- Work that was done on top of the slots is tidied away, whether it failed or not. -/
theorem gives_tidied {v : ScriptValue} {x : Crossing M δ Error α} {r : Except Error α}
    {f : Except Error α → Crossing M δ Error β} {q : Except Error β}
    (hx : m.Gives handler s (a.push v) x r s₁)
    (hf : ∀ s', m.Keeps s a s' → m.Gives handler s a (f r) q s') :
    m.Gives handler s a (x.attempt >>= fun result => setDepth a.size >>= fun _ =>
      f result) q s₁ := by
  have hslots {s' : Session M BoundFunction (HostState δ)} (h : m.Keeps s (a.push v) s') :
      s'.slots = a ++ #[v] := by rw [h.slots, Array.push_eq_append]
  unfold Gives
  rw [ends_bind, ends_attempt]
  refine ends_mono hx ?_ ?_
  all_goals
    rintro _ s' ⟨hs, rfl⟩
    rw [ends_bind]
    exact setDepth_ends hs.poison (hslots hs) (hf _ (hs.setSlots a))

/-! ## The recursion -/

variable {heap : DataHeap} {levels budget : Nat} {v : ScriptValue}

variable (m) in
/-- The reader comes to what is calculated of every value that reaches nothing but data. -/
def Converts (handler : Handler M BoundFunction (HostState δ)) (heap : DataHeap)
    (s : Session M BoundFunction (HostState δ)) (reader : Reader M δ)
    (one : ScriptValue → Nat → Except Error (HostValue × Nat)) : Prop :=
  ∀ (slot budget : Nat) (a : Array ScriptValue) (v : ScriptValue)
    (s₁ : Session M BoundFunction (HostState δ)), m.Keeps s a s₁ → a[slot]? = some v →
    AllData heap v → m.Gives handler s a (reader slot budget) (one v budget) s₁

/-- What was read before comes in front. -/
def inFront (done : List α) : List α × Nat → List α × Nat
  | (more, left) => (done.reverse ++ more, left)

theorem inFront_convertedItems (one : ScriptValue → Nat → Except Error (HostValue × Nat))
    (v : ScriptValue) (vs : List ScriptValue) (budget : Nat) (done : List HostValue) :
    inFront done <$> convertedItems one (v :: vs) budget =
      one v budget >>= fun read => inFront (read.1 :: done) <$> convertedItems one vs read.2 := by
  rw [convertedItems]
  cases one v budget with
  | error e => rfl
  | ok read =>
    show inFront done <$> (convertedItems one vs read.2 >>= _) = inFront _ <$> _
    cases convertedItems one vs read.2 with
    | error e => rfl
    | ok rest => simp [inFront, Functor.map, Except.map, bind, Except.bind, pure, Except.pure]

theorem inFront_convertedEntries (one : ScriptValue → Nat → Except Error (HostValue × Nat))
    {p : Member} (ps : List Member) (budget : Nat) (done : List (HostValue × HostValue))
    (hfunction : isFunction heap p.value = false) :
    inFront done <$> convertedEntries heap one (p :: ps) budget =
      hostText (Text.encodeUnits p.key) >>= fun name => one p.value budget >>= fun read =>
        inFront ((.string name, read.1) :: done) <$> convertedEntries heap one ps read.2 := by
  rw [convertedEntries, if_neg (by simp [hfunction])]
  cases hostText (Text.encodeUnits p.key) with
  | error e => rfl
  | ok name =>
    show inFront done <$> (one p.value budget >>= _) = one p.value budget >>= _
    cases one p.value budget with
    | error e => rfl
    | ok read =>
      show inFront done <$> (convertedEntries heap one ps read.2 >>= _) = inFront _ <$> _
      cases convertedEntries heap one ps read.2 with
      | error e => rfl
      | ok rest => simp [inFront, Functor.map, Except.map, bind, Except.bind, pure, Except.pure]

theorem inFront_nil (r : Except Error (List α × Nat)) : inFront [] <$> r = r := by
  cases r <;> rfl

theorem readItems_gives {reader : Reader M δ}
    {one : ScriptValue → Nat → Except Error (HostValue × Nat)}
    (hreader : m.Converts handler heap s reader one) (hdata : M.ShowsData s.world.machine heap)
    {array : Nat} {ref : Ref} {items : List (Option ScriptValue)}
    (hv : a[array]? = some (.object ref)) (ho : heap ref = some (.array items))
    (vs : List ScriptValue) (next budget : Nat) (done : List HostValue)
    (hvs : (items.map (·.getD .undefined)).drop next = vs) (hall : ∀ v ∈ vs, AllData heap v)
    (hs : m.Keeps s a s₁) :
    m.Gives handler s a (readItems reader array vs.length next budget done)
      (inFront done <$> convertedItems one vs budget) s₁ := by
  induction vs generalizing next budget done s₁ with
  | nil =>
    refine ⟨hs, ?_⟩
    rw [← List.append_nil done.reverse]
    rfl
  | cons v vs ih =>
    have hvalue : ((items.map (·.getD .undefined)).drop next)[0]? = some v := by
      rw [hvs]
      rfl
    have hrest : (items.map (·.getD .undefined)).drop (next + 1) = vs := by
      rw [← List.tail_drop, hvs]
      rfl
    rw [List.getElem?_drop, Nat.add_zero, List.getElem?_map] at hvalue
    obtain ⟨item, hitem, rfl⟩ := Option.map_eq_some_iff.mp hvalue
    rw [List.length_cons, readItems_succ, inFront_convertedItems, Gives, depth, ends_bind,
      ends_read, ends_bind, hs.slots]
    refine check_ends (getIndex_ends (hs.slots ▸ hv) (hs.machine ▸ hdata ref _ ho) hitem ?_)
    rw [hs.slots]
    refine gives_tidied (hreader a.size budget _ _ _ (hs.setSlots _) (by simp)
      (hall _ List.mem_cons_self)) fun s₂ hs₂ => ?_
    refine (gives_ofExcept hs₂ _).bind fun read s₃ hs₃ => ?_
    exact ih (next + 1) read.2 _ hrest (fun w hw => hall w (List.mem_cons_of_mem _ hw)) hs₃

theorem ofValue_eq_function_iff {machine : M.State} (hdata : M.ShowsData machine heap)
    (hv : AllData heap v) :
    SlotType.ofValue (M.shape machine) v = .function ↔ isFunction heap v = true := by
  cases v with
  | object ref =>
    obtain ⟨o, ho⟩ := hv.object
    have hshow := hdata ref o ho
    cases o with
    | array items => simp [SlotType.ofValue, isFunction, ho, hshow.shape]
    | plain members => simp [SlotType.ofValue, isFunction, ho, hshow.shape]
    | function =>
      have hshape : M.shape machine ref = .function := hshow
      simp [SlotType.ofValue, isFunction, ho, hshape]
  | _ => simp [SlotType.ofValue, isFunction]

theorem readEntries_gives {reader : Reader M δ}
    {one : ScriptValue → Nat → Except Error (HostValue × Nat)}
    (hreader : m.Converts handler heap s reader one) (hdata : M.ShowsData s.world.machine heap)
    {object : Nat} {ref : Ref} {members : List Member} (hv : a[object]? = some (.object ref))
    (ho : heap ref = some (.plain members)) (ps : List Member) (budget : Nat)
    (done : List (HostValue × HostValue)) (hps : ∀ p ∈ ps, p ∈ members)
    (hall : ∀ p ∈ ps, AllData heap p.value) (hs : m.Keeps s a s₁) :
    m.Gives handler s a (readEntries reader object (ps.map fun p => Text.encodeUnits p.key) budget
      done) (inFront done <$> convertedEntries heap one ps budget) s₁ := by
  induction ps generalizing budget done s₁ with
  | nil =>
    refine ⟨hs, ?_⟩
    rw [← List.append_nil done.reverse]
    rfl
  | cons p ps ih =>
    have hp := hps p List.mem_cons_self
    have hvalue := hall p List.mem_cons_self
    have ih' {budget : Nat} {done : List (HostValue × HostValue)}
        {s₂ : Session M BoundFunction (HostState δ)} (hs₂ : m.Keeps s a s₂) :=
      ih budget done (fun q hq => hps q (List.mem_cons_of_mem _ hq))
        (fun q hq => hall q (List.mem_cons_of_mem _ hq)) hs₂
    rw [List.map_cons, readEntries, Gives, depth, ends_bind, ends_read, ends_bind, hs.slots]
    refine check_ends (getProp_ends (hs.slots ▸ hv) (hs.machine ▸ hdata ref _ ho) hp ?_)
    rw [hs.slots, ends_bind]
    refine slotType_ends (by simp : (a.push p.value)[a.size]? = some p.value) ?_
    have hkind : SlotType.ofValue (M.shape s₁.world.machine) p.value = .function ↔
        isFunction heap p.value = true := ofValue_eq_function_iff (hs.machine ▸ hdata) hvalue
    dsimp only
    split
    · next hfunction =>
      rw [convertedEntries, if_pos (hkind.mp hfunction), ends_bind]
      exact setDepth_ends hs.poison Array.push_eq_append (ih' (hs.setSlots a))
    · next hfunction =>
      rw [hkind, Bool.not_eq_true] at hfunction
      rw [inFront_convertedEntries _ _ _ _ hfunction]
      refine gives_tidied (hreader a.size budget _ _ _ (hs.setSlots _) (by simp) hvalue)
        fun s₂ hs₂ => ?_
      refine (gives_ofExcept hs₂ _).bind fun name s₃ hs₃ => ?_
      exact (gives_ofExcept hs₃ _).bind fun read s₄ hs₄ => ih' hs₄

/-- **The reading comes to what is calculated.** -/
theorem read_gives (hdata : M.ShowsData s.world.machine heap) (levels : Nat) :
    m.Converts handler heap s (m.read levels)
      (m.converted heap (m.standInFor s.world.host) levels) := by
  induction levels with
  | zero => exact fun slot budget a v s₁ hs _ _ => ⟨hs, rfl⟩
  | succ levels ih =>
    intro slot budget a v s₁ hs hv hall
    have hslot : s₁.slots[slot]? = some v := hs.slots ▸ hv
    have hformless : m.Gives handler s a (m.standIn >>= fun x => pure (x, budget))
        (.ok (m.standInFor s.world.host, budget)) s₁ := by
      refine ends_next (standIn_ends hs) ?_
      rintro x s₂ ⟨rfl, hs₂⟩
      exact ⟨hs₂, rfl⟩
    rw [read, Gives, ends_bind]
    refine slotType_ends hslot ?_
    cases v with
    | undefined | null => exact gives_pure hs _
    | boolean b =>
      simp only [SlotType.ofValue, getBoolean, ends_bind, ends_read, hslot]
      exact gives_pure hs _
    | number x =>
      simp only [SlotType.ofValue, getNumber, ends_bind, ends_read, hslot]
      exact gives_pure hs _
    | string text =>
      simp only [SlotType.ofValue, getString, ends_bind, ends_read, hslot, Option.getD_some]
      rw [← ends_bind]
      exact (gives_ofExcept hs _).bind fun text s₂ hs₂ => gives_pure hs₂ _
    | symbol id | bigint n => exact hformless
    | object ref =>
      obtain ⟨o, ho⟩ := hall.object
      have hshow := hdata ref o ho
      rw [← hs.machine] at hshow
      have hvalues {w : ScriptValue} (hw : w ∈ o.values) : AllData heap w := hall.of_mem ho hw
      cases o with
      | array items =>
        simp only [SlotType.ofValue, hshow.shape, converted, ho]
        rw [ends_bind]
        refine check_ends (arrayLength_ends hslot hshow ?_)
        refine (gives_ofExcept hs _).bind fun left s₂ hs₂ => ?_
        have hitems := readItems_gives ih hdata hv ho _ 0 left [] List.drop_zero
          (fun w hw => hvalues hw) hs₂
        rw [List.length_map, inFront_nil] at hitems
        exact hitems.bind fun read s₃ hs₃ => gives_pure hs₃ _
      | plain members =>
        simp only [SlotType.ofValue, hshow.shape, converted, ho]
        rw [ends_bind]
        refine check_ends (ownKeys_ends hslot hshow ?_)
        rw [List.length_map]
        refine (gives_ofExcept hs _).bind fun left s₂ hs₂ => ?_
        have hentries := readEntries_gives ih hdata hv ho (members.filter Member.enumerable) left []
          (fun p hp => (List.mem_filter.mp hp).1) (fun p hp => hvalues (List.mem_map_of_mem hp)) hs₂
        rw [inFront_nil] at hentries
        exact hentries.bind fun read s₃ hs₃ => gives_pure hs₃ _
      | function =>
        have hshape : M.shape s₁.world.machine ref = .function := hshow
        simp only [SlotType.ofValue, hshape, converted, ho]
        exact hformless

variable (m) in
/-- The value as a host value, within all the bounds. -/
def converts (heap : DataHeap) (standIn : HostValue) (v : ScriptValue) :
    Except Error HostValue := do
  let (value, _) ← m.converted heap standIn (m.maxDepth + 1) v m.maxElements
  pure value

variable (handler) in
/-- **The conversion comes to what is calculated**, and takes the top slot off. -/
theorem pop_gives (hdata : M.ShowsData s.world.machine heap) (hv : AllData heap v)
    (hslots : s.slots = a.push v) (hp : s.poison = none) :
    m.Gives handler s a m.pop (m.converts heap (m.standInFor s.world.host) v) s := by
  rw [pop, Gives, depth, ends_bind, ends_read, hslots, Array.size_push]
  refine gives_tidied (read_gives hdata (m.maxDepth + 1) a.size m.maxElements _ v s
    ⟨hslots, hp, rfl, rfl⟩ (by simp) hv) fun s₁ hs₁ => ?_
  exact (gives_ofExcept hs₁ _).bind fun read s₂ hs₂ => gives_pure hs₂ _

end Marshaller

/-! ## What counts -/

/-- What can be seen of an object: its elements, or its enumerable members. -/
def DataObject.visible : DataObject → DataObject
  | plain members => plain (members.filter Member.enumerable)
  | o => o

/-- Of every object that is reached from the value, both heaps let the same be seen. -/
def AgreeFrom (heap heap' : DataHeap) (v : ScriptValue) : Prop :=
  ∀ ref, Reaches heap v (.object ref) →
    (heap' ref).map DataObject.visible = (heap ref).map DataObject.visible

section

variable {heap heap' : DataHeap} {v w : ScriptValue} {ref : Ref} {o : DataObject}

theorem AgreeFrom.refl (heap : DataHeap) (v : ScriptValue) : AgreeFrom heap heap v := fun _ _ => rfl

theorem DataObject.values_visible (o : DataObject) : o.visible.values = o.values := by
  cases o <;> simp [visible, values]

theorem AgreeFrom.object (h : AgreeFrom heap heap' (.object ref)) (ho : heap ref = some o) :
    ∃ o', heap' ref = some o' ∧ o'.visible = o.visible := by
  have hsame := h ref (.refl _)
  rw [ho, Option.map_some] at hsame
  exact Option.map_eq_some_iff.mp hsame

theorem AgreeFrom.of_mem (h : AgreeFrom heap heap' (.object ref)) (ho : heap ref = some o)
    (hw : w ∈ o.values) : AgreeFrom heap heap' w := fun r hreach => h r (.step ho hw hreach)

theorem AgreeFrom.reaches (h : AgreeFrom heap heap' v) (hv : AllData heap v)
    (hreach : Reaches heap' v w) : Reaches heap v w := by
  induction hreach with
  | refl => exact .refl _
  | step ho' hw _ ih =>
    obtain ⟨o, ho⟩ := hv.object
    obtain ⟨o', ho'', hvisible⟩ := h.object ho
    obtain rfl := Option.some.inj (ho'.symm.trans ho'')
    rw [← DataObject.values_visible, hvisible, DataObject.values_visible] at hw
    exact .step ho hw (ih (h.of_mem ho hw) (hv.of_mem ho hw))

theorem AgreeFrom.allData (h : AgreeFrom heap heap' v) (hv : AllData heap v) : AllData heap' v := by
  intro ref hreach
  have hreach := h.reaches hv hreach
  obtain ⟨o, ho⟩ := hv ref hreach
  have hfrom : AgreeFrom heap heap' (.object ref) := fun r hr => h r (hreach.trans hr)
  obtain ⟨o', ho', -⟩ := hfrom.object ho
  exact ⟨o', ho'⟩

theorem AgreeFrom.isFunction_eq (h : AgreeFrom heap heap' v) (hv : AllData heap v) :
    isFunction heap' v = isFunction heap v := by
  cases v with
  | object ref =>
    obtain ⟨o, ho⟩ := hv.object
    obtain ⟨o', ho', hvisible⟩ := h.object ho
    cases o <;> cases o' <;> simp [DataObject.visible] at hvisible <;> simp [isFunction, ho, ho']
  | _ => rfl

end

namespace Marshaller

variable (m : Marshaller) {heap heap' : DataHeap} {v : ScriptValue}
  {one one' : ScriptValue → Nat → Except Error (HostValue × Nat)}

theorem convertedItems_congr {vs : List ScriptValue} (h : ∀ v ∈ vs, one' v = one v) (budget : Nat) :
    convertedItems one' vs budget = convertedItems one vs budget := by
  induction vs generalizing budget with
  | nil => rfl
  | cons v vs ih =>
    obtain ⟨hv, hvs⟩ := List.forall_mem_cons.mp h
    simp only [convertedItems, hv, ih hvs]

theorem convertedEntries_congr {ps : List Member} (h : ∀ p ∈ ps, one' p.value = one p.value)
    (hfunction : ∀ p ∈ ps, isFunction heap' p.value = isFunction heap p.value) (budget : Nat) :
    convertedEntries heap' one' ps budget = convertedEntries heap one ps budget := by
  induction ps generalizing budget with
  | nil => rfl
  | cons p ps ih =>
    obtain ⟨hp, hps⟩ := List.forall_mem_cons.mp h
    obtain ⟨hfp, hfps⟩ := List.forall_mem_cons.mp hfunction
    simp only [convertedEntries, hp, hfp, ih hps hfps]

/-- **Nothing counts but what is seen of the objects that are reached.** -/
theorem converted_congr (h : AgreeFrom heap heap' v) (hv : AllData heap v) (standIn : HostValue)
    (levels : Nat) : m.converted heap' standIn levels v = m.converted heap standIn levels v := by
  induction levels generalizing v with
  | zero => rfl
  | succ levels ih =>
    funext budget
    cases v with
    | object ref =>
      obtain ⟨o, ho⟩ := hv.object
      obtain ⟨o', ho', hvisible⟩ := h.object ho
      have hvalues (w : ScriptValue) (hw : w ∈ o.values) :
          AgreeFrom heap heap' w ∧ AllData heap w := ⟨h.of_mem ho hw, hv.of_mem ho hw⟩
      cases o with
      | array items =>
        cases o' <;> cases hvisible
        have hitems : ∀ w ∈ items.map (·.getD .undefined),
            m.converted heap' standIn levels w = m.converted heap standIn levels w :=
          fun w hw => ih (hvalues w hw).1 (hvalues w hw).2
        simp only [converted, ho, ho']
        refine bind_congr fun left => ?_
        rw [convertedItems_congr hitems]
      | plain members =>
        cases o' with
        | plain members' =>
          have hshown : members'.filter Member.enumerable = members.filter Member.enumerable :=
            DataObject.plain.inj hvisible
          have hmember (p : Member) (hp : p ∈ members.filter Member.enumerable) :=
            hvalues p.value (List.mem_map_of_mem hp)
          simp only [converted, ho, ho', hshown]
          refine bind_congr fun left => ?_
          rw [convertedEntries_congr (fun p hp => ih (hmember p hp).1 (hmember p hp).2)
            fun p hp => (hmember p hp).1.isFunction_eq (hmember p hp).2]
        | _ => cases hvisible
      | function =>
        cases o' <;> cases hvisible
        simp only [converted, ho, ho']
    | _ => rfl

theorem converts_congr (h : AgreeFrom heap heap' v) (hv : AllData heap v) (standIn : HostValue) :
    m.converts heap' standIn v = m.converts heap standIn v := by
  rw [converts, converts, m.converted_congr h hv]

end Marshaller

end ScriptHost
