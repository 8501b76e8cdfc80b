import Mathlib.Data.List.Dedup
import ScriptHost.Proofs.Crossing.Recross
import ScriptHost.Proofs.Value.Received

/-!
# What the host receives

Whatever script does during a conversion, its result is made of null, truth values, numbers,
strings, arrays and maps; only where something without a host form was found, there is a value that
stands in for it.  Keys are strings and distinct, and the result is within the bounds that the
conversion was given.

* `popMarked`: the conversion with its stand-ins marked, and `value_popMarked`: without the marks it
  is the conversion;
* `Within`: the shape and the bounds, with one lemma for each kind of container;
* `received_within`: **what is received has this shape.**
-/

namespace ScriptHost

open Stack Stacked Crossing

variable {M : Machine} {κ ω δ ε ε' α β γ : Type}

/-- The machine names no own property of an object twice. -/
def Machine.KeysDistinct (M : Machine) (handler : Handler M κ ω) : Prop :=
  ∀ ref (w w' : World M κ ω) names,
    (M.keys ref w.machine).drive handler w = .ended (.ok names) w' → names.Nodup

namespace Marshaller

/-! ## The conversion with marks -/

section

variable (m : Marshaller)

/-- How a container reads a slot, with marks. -/
abbrev MarkedReader (M : Machine) (δ : Type) := (slot budget : Nat) →
    Crossing M δ Error (Received × Nat)

/-- `readItems` with marks. -/
def readItemsMarked (reader : MarkedReader M δ) (array : Nat) :
    (count next budget : Nat) → List Received → Crossing M δ Error (List Received × Nat)
  | 0, _, budget, done => pure (done.reverse, budget)
  | count + 1, next, budget, done => do
    let base ← depth
    check (getIndex array next)
    let item ← (reader base budget).attempt
    setDepth base
    let (item, budget) ← Crossing.ofExcept item
    readItemsMarked reader array count (next + 1) budget (item :: done)

/-- `readEntries` with marks. -/
def readEntriesMarked (reader : MarkedReader M δ) (object : Nat) :
    List (List UInt8) → (budget : Nat) → List (String × Received) →
      Crossing M δ Error (List (String × Received) × Nat)
  | [], budget, done => pure (done.reverse, budget)
  | key :: rest, budget, done => do
    let base ← depth
    let _ ← check (getProp object key)
    if (← slotType base) = .function then
      setDepth base
      readEntriesMarked reader object rest budget done
    else
      let item ← (reader base budget).attempt
      setDepth base
      let name ← Crossing.ofExcept (hostText key)
      let (value, budget) ← Crossing.ofExcept item
      readEntriesMarked reader object rest budget ((name, value) :: done)

/-- `read` with marks. -/
def readMarked : (levels : Nat) → MarkedReader M δ
  | 0, _, _ => .fail (.typeError (tooDeep m.maxDepth))
  | levels + 1, slot, budget => do
    match ← slotType slot with
    | .none => (poison s!"no value at slot {slot}").mapError Error.ofEngineError
    | .undefined | .null => pure (.null, budget)
    | .boolean => pure (.boolean (← getBoolean slot), budget)
    | .number => pure (.number (← getNumber slot), budget)
    | .string =>
      let text ← Crossing.ofExcept (hostText ((← getString slot).getD []))
      pure (.string text, budget)
    | .array =>
      let length ← check (arrayLength slot)
      let budget ← Crossing.ofExcept (m.charge budget length)
      let (items, budget) ← readItemsMarked (readMarked levels) slot length 0 budget []
      pure (.array items, budget)
    | .object =>
      let keys ← check (ownKeys slot)
      let budget ← Crossing.ofExcept (m.charge budget keys.length)
      let (entries, budget) ← readEntriesMarked (readMarked levels) slot keys budget []
      pure (.map entries, budget)
    | .function | .other => pure (.standIn (← m.standIn), budget)

/-- `pop` with every value that stands in for something marked. -/
def popMarked : Crossing M δ Error Received := do
  match ← depth with
  | 0 => (poison "no value to convert").mapError Error.ofEngineError
  | top + 1 =>
    let value ← (m.readMarked (m.maxDepth + 1) top m.maxElements).attempt
    setDepth top
    let (value, _) ← Crossing.ofExcept value
    pure value

end

/-! ## Without the marks -/

theorem attempt_map (f : α → β) (x : Stacked M κ ω ε α) :
    ((f <$> x).attempt : Stacked M κ ω ε' (Except ε β)) = Except.map f <$> x.attempt := by
  funext handler s
  show Stacked.attempt (Stacked.bind x fun a => Stacked.pure (f a)) handler s =
    Stacked.bind x.attempt (fun r => Stacked.pure (Except.map f r)) handler s
  simp only [Stacked.attempt, Stacked.bind]
  cases x handler s <;> rfl

theorem ofExcept_map (f : α → β) (r : Except ε α) :
    (Crossing.ofExcept (Except.map f r) : Crossing M δ ε β) = f <$> Crossing.ofExcept r := by
  cases r <;> rfl

/-- What was read, without its marks. -/
def unmarked (r : Received × Nat) : HostValue × Nat := (r.1.value, r.2)

theorem value_readItemsMarked {marked : MarkedReader M δ} {reader : Reader M δ}
    (hreader : ∀ slot budget, unmarked <$> marked slot budget = reader slot budget)
    (array count next budget : Nat) (done : List Received) :
    (fun r => (r.1.map Received.value, r.2)) <$>
        readItemsMarked marked array count next budget done =
      readItems reader array count next budget (done.map Received.value) := by
  induction count generalizing next budget done with
  | zero => simp only [readItemsMarked, readItems, map_pure, List.map_reverse]
  | succ count ih =>
    rw [readItems_succ, readItemsMarked]
    simp only [map_bind, ih, List.map_cons]
    refine bind_congr fun base => bind_congr fun _ => ?_
    simp only [← hreader, attempt_map, bind_map_left, ofExcept_map]
    rfl

theorem value_readEntriesMarked {marked : MarkedReader M δ} {reader : Reader M δ}
    (hreader : ∀ slot budget, unmarked <$> marked slot budget = reader slot budget) (object : Nat)
    (keys : List (List UInt8)) (budget : Nat) (done : List (String × Received)) :
    (fun r => (r.1.map fun e => (.string e.1, e.2.value), r.2)) <$>
        readEntriesMarked marked object keys budget done =
      readEntries reader object keys budget (done.map fun e => (.string e.1, e.2.value)) := by
  induction keys generalizing budget done with
  | nil => simp only [readEntriesMarked, readEntries, map_pure, List.map_reverse]
  | cons key rest ih =>
    rw [readEntries, readEntriesMarked]
    simp only [map_bind]
    refine bind_congr fun base => bind_congr fun _ => bind_congr fun kind => ?_
    split
    · simp only [map_bind, ih]
    · simp only [map_bind, ih, ← hreader, attempt_map, bind_map_left, ofExcept_map]
      rfl

theorem value_readMarked (m : Marshaller) (levels slot budget : Nat) :
    unmarked <$> (m.readMarked levels slot budget : Crossing M δ Error _) =
      m.read levels slot budget := by
  induction levels generalizing slot budget with
  | zero => rfl
  | succ levels ih =>
    rw [readMarked, read, map_bind]
    refine bind_congr fun kind => ?_
    cases kind with
    | none => rfl
    | undefined | null => rfl
    | boolean | number | function | other => simp only [map_bind, map_pure]; rfl
    | string => simp only [map_bind, map_pure]; rfl
    | array =>
      simp only [map_bind, map_pure]
      refine bind_congr fun length => bind_congr fun left => ?_
      have hitems := value_readItemsMarked ih slot length 0 left []
      rw [List.map_nil] at hitems
      simp only [← hitems, bind_map_left, unmarked, Received.value, Received.itemValues_eq_map]
    | object =>
      simp only [map_bind, map_pure]
      refine bind_congr fun keys => bind_congr fun left => ?_
      have hentries := value_readEntriesMarked ih slot keys left []
      rw [List.map_nil] at hentries
      simp only [← hentries, bind_map_left, unmarked, Received.value, Received.entryValues_eq_map]

/-- **Without its marks it is the conversion.** -/
theorem value_popMarked (m : Marshaller) :
    Received.value <$> (m.popMarked : Crossing M δ Error Received) = m.pop := by
  rw [popMarked, pop, map_bind]
  refine bind_congr fun n => ?_
  cases n with
  | zero => rfl
  | succ top =>
    simp only [map_bind, ← value_readMarked, attempt_map, bind_map_left, ofExcept_map, map_pure]
    rfl

/-! ## Shape and bounds -/

/-- What the conversion puts for a value without a host form: its override, or else a sentinel. -/
def StandsIn (m : Marshaller) (v : HostValue) : Prop :=
  match m.complex with
  | some u => v = u
  | none => ∃ sentinel, v = .complexObject sentinel

/-- A node as it should be: the keys of a map are distinct, and what stands in for something is what
the conversion puts. -/
def Sound (m : Marshaller) (t : Received) : Prop :=
  t.KeysDistinct ∧ ∀ v, t = .standIn v → m.StandsIn v

/-- The value nests less than `levels` deep, its elements come out of a budget of which `left` is
left, and all its nodes are as they should be. -/
structure Within (m : Marshaller) (levels budget left : Nat) (t : Received) : Prop where
  depth : t.depth < levels
  elements : t.elements + left ≤ budget
  sound : t.All m.Sound

/-- The same of all the items of an array; each item has been charged. -/
structure ItemsWithin (m : Marshaller) (levels budget left : Nat) (ts : List Received) : Prop where
  depth : Received.itemDepth ts ≤ levels
  elements : Received.itemElements ts + left ≤ ts.length + budget
  sound : Received.AllItems m.Sound ts

/-- The same of the entries of a map under some of these keys, in their order; each key has been
charged. -/
structure EntriesWithin (m : Marshaller) (levels budget left : Nat) (keys : List Units)
    (es : List (String × Received)) : Prop where
  depth : Received.entryDepth es ≤ levels
  elements : Received.entryElements es + left ≤ keys.length + budget
  sound : Received.AllEntries m.Sound es
  keys : (es.map fun e => Text.units e.1).Sublist keys

section

variable {m : Marshaller} {levels budget next left : Nat} {t : Received} {ts : List Received}
  {keys : List Units} {es : List (String × Received)}

theorem Within.leaf (hdepth : t.depth = 0) (helements : t.elements = 0) (hsound : t.All m.Sound) :
    Within m (levels + 1) budget budget t := ⟨by omega, by omega, hsound⟩

theorem ItemsWithin.nil : ItemsWithin m levels budget budget [] :=
  ⟨Nat.zero_le _, by simp [Received.itemElements], trivial⟩

theorem ItemsWithin.cons (h : Within m levels budget next t)
    (h' : ItemsWithin m levels next left ts) :
    ItemsWithin m levels budget left (t :: ts) where
  depth := by
    have := h.depth
    have := h'.depth
    rw [Received.itemDepth]
    omega
  elements := by
    have := h.elements
    have := h'.elements
    rw [Received.itemElements, List.length_cons]
    omega
  sound := ⟨h.sound, h'.sound⟩

theorem ItemsWithin.array (h : ItemsWithin m levels next left ts)
    (hcharge : budget = ts.length + next) : Within m (levels + 1) budget left (.array ts) where
  depth := Nat.lt_succ_of_le h.depth
  elements := hcharge ▸ h.elements
  sound := ⟨⟨trivial, nofun⟩, h.sound⟩

theorem EntriesWithin.nil : EntriesWithin m levels budget budget [] [] :=
  ⟨Nat.zero_le _, by simp [Received.entryElements], trivial, .slnil⟩

theorem EntriesWithin.skip (h : EntriesWithin m levels budget left keys es) (key : Units) :
    EntriesWithin m levels budget left (key :: keys) es where
  depth := h.depth
  elements := by
    have := h.elements
    rw [List.length_cons]
    omega
  sound := h.sound
  keys := h.keys.cons key

theorem EntriesWithin.cons {name : String} (h : Within m levels budget next t)
    (h' : EntriesWithin m levels next left keys es) :
    EntriesWithin m levels budget left (Text.units name :: keys) ((name, t) :: es) where
  depth := by
    have := h.depth
    have := h'.depth
    rw [Received.entryDepth]
    omega
  elements := by
    have := h.elements
    have := h'.elements
    rw [Received.entryElements, List.length_cons]
    omega
  sound := ⟨h.sound, h'.sound⟩
  keys := h'.keys.cons_cons _

/-- The entries of a map that was charged for its keys.  Different keys of the object never become
the same string, as each string has its own units. -/
theorem EntriesWithin.map (h : EntriesWithin m levels next left keys es) (hkeys : keys.Nodup)
    (hcharge : budget = keys.length + next) : Within m (levels + 1) budget left (.map es) where
  depth := Nat.lt_succ_of_le h.depth
  elements := hcharge ▸ h.elements
  sound := by
    have hunits : ((es.map Prod.fst).map Text.units).Nodup := by
      rw [List.map_map]
      exact hkeys.sublist h.keys
    exact ⟨⟨hunits.of_map, nofun⟩, h.sound⟩

end

/-! ## The recursion -/

section

variable {handler : Handler M BoundFunction (HostState δ)} {m : Marshaller}
  {s s' : Session M BoundFunction (HostState δ)}

/-- Every value that the reader answers with is within the bounds. -/
def ReadsWithin (m : Marshaller) (handler : Handler M BoundFunction (HostState δ)) (levels : Nat)
    (reader : MarkedReader M δ) : Prop :=
  ∀ slot budget s r s', reader slot budget handler s = .ok r s' → Within m levels budget r.2 r.1

theorem readItemsMarked_within {reader : MarkedReader M δ} {levels : Nat}
    (hreader : ReadsWithin m handler levels reader) {array count next budget : Nat}
    {done : List Received} {r : List Received × Nat}
    (h : readItemsMarked reader array count next budget done handler s = .ok r s') :
    ∃ ts, r.1 = done.reverse ++ ts ∧ ts.length = count ∧ ItemsWithin m levels budget r.2 ts := by
  induction count generalizing next budget done s with
  | zero =>
    cases h
    exact ⟨[], by simp, rfl, .nil⟩
  | succ count ih =>
    obtain ⟨base, s₁, -, h⟩ := exists_of_bind_eq_ok h
    obtain ⟨_, s₂, -, h⟩ := exists_of_bind_eq_ok h
    obtain ⟨item, s₃, hitem, h⟩ := exists_of_bind_eq_ok h
    obtain ⟨_, s₄, -, h⟩ := exists_of_bind_eq_ok h
    obtain ⟨read, s₅, hread, h⟩ := exists_of_bind_eq_ok h
    obtain rfl := ofExcept_eq_ok hread
    have hfirst := hreader base budget s₂ read s₃ (run_of_attempt_eq_ok hitem)
    obtain ⟨ts, hr, hlength, hts⟩ := ih h
    exact ⟨read.1 :: ts, by simp [hr], by rw [List.length_cons, hlength], .cons hfirst hts⟩

theorem readEntriesMarked_within {reader : MarkedReader M δ} {levels : Nat}
    (hreader : ReadsWithin m handler levels reader) {object budget : Nat} {keys : List Units}
    {done : List (String × Received)} {r : List (String × Received) × Nat}
    (h : readEntriesMarked reader object (keys.map Text.encodeUnits) budget done handler s =
      .ok r s') :
    ∃ es, r.1 = done.reverse ++ es ∧ EntriesWithin m levels budget r.2 keys es := by
  induction keys generalizing budget done s with
  | nil =>
    cases h
    exact ⟨[], by simp, .nil⟩
  | cons key rest ih =>
    obtain ⟨base, s₁, -, h⟩ := exists_of_bind_eq_ok h
    obtain ⟨_, s₂, -, h⟩ := exists_of_bind_eq_ok h
    obtain ⟨kind, s₃, -, h⟩ := exists_of_bind_eq_ok h
    split at h
    -- Under a key that is left out nothing is received, but it stays charged.
    · obtain ⟨_, s₄, -, h⟩ := exists_of_bind_eq_ok h
      obtain ⟨es, hr, hes⟩ := ih h
      exact ⟨es, hr, hes.skip key⟩
    · obtain ⟨item, s₄, hitem, h₄⟩ := exists_of_bind_eq_ok h
      obtain ⟨_, s₅, -, h₅⟩ := exists_of_bind_eq_ok h₄
      obtain ⟨name, s₆, hname, h₆⟩ := exists_of_bind_eq_ok h₅
      obtain ⟨read, s₇, hread, hrest⟩ := exists_of_bind_eq_ok h₆
      obtain rfl := ofExcept_eq_ok hread
      have hunits := units_of_hostText (ofExcept_eq_ok hname)
      have hfirst := hreader base budget s₃ read s₄ (run_of_attempt_eq_ok hitem)
      obtain ⟨es, hr, hes⟩ := ih hrest
      refine ⟨(name, read.1) :: es, by simp [hr], ?_⟩
      rw [← hunits]
      exact .cons hfirst hes

theorem standsIn_of_standIn {v : HostValue}
    (h : (m.standIn : Crossing M δ Error HostValue) handler s = .ok v s') : m.StandsIn v := by
  cases hc : m.complex with
  | some u =>
    simp only [standIn, StandsIn, hc] at h ⊢
    cases h
    rfl
  | none =>
    simp only [standIn, StandsIn, hc] at h ⊢
    cases h
    exact ⟨_, rfl⟩

/-- **What is read is within the bounds**, whatever it was read from. -/
theorem readMarked_within (hkeys : M.KeysDistinct handler) (levels : Nat) :
    ReadsWithin m handler levels (m.readMarked levels : MarkedReader M δ) := by
  induction levels with
  | zero =>
    intro slot budget s r s' h
    cases h
  | succ levels ih =>
    intro slot budget s r s' h
    obtain ⟨kind, s₁, -, h⟩ := exists_of_bind_eq_ok h
    cases kind with
    | none => exact absurd h (fails_mapError _ (fails_poison _) handler s₁ r s')
    | undefined | null =>
      cases h
      exact .leaf rfl rfl ⟨trivial, nofun⟩
    | boolean | number =>
      obtain ⟨x, s₂, -, h⟩ := exists_of_bind_eq_ok h
      cases h
      exact .leaf rfl rfl ⟨trivial, nofun⟩
    | string =>
      obtain ⟨bytes, s₂, -, h⟩ := exists_of_bind_eq_ok h
      obtain ⟨text, s₃, -, h⟩ := exists_of_bind_eq_ok h
      cases h
      exact .leaf rfl rfl ⟨trivial, nofun⟩
    | array =>
      obtain ⟨length, s₂, -, h⟩ := exists_of_bind_eq_ok h
      obtain ⟨next, s₃, hcharge, h⟩ := exists_of_bind_eq_ok h
      obtain ⟨items, s₄, hitems, h⟩ := exists_of_bind_eq_ok h
      cases h
      obtain ⟨ts, hts, hlength, hwithin⟩ := readItemsMarked_within ih hitems
      rw [hts]
      exact hwithin.array (hlength ▸ eq_add_of_charge hcharge)
    | object =>
      obtain ⟨keys, s₂, hlisted, h⟩ := exists_of_bind_eq_ok h
      obtain ⟨next, s₃, hcharge, h⟩ := exists_of_bind_eq_ok h
      obtain ⟨entries, s₄, hentries, h⟩ := exists_of_bind_eq_ok h
      cases h
      obtain ⟨ref, listed, w₁, kept, w₂, -, hnames, hkept, rfl, -⟩ :=
        ownKeys_eq_ok (check_eq_ok hlisted)
      obtain ⟨es, hes, hwithin⟩ := readEntriesMarked_within ih hentries
      rw [hes]
      rw [List.length_map] at hcharge
      exact hwithin.map ((hkeys ref _ _ _ hnames).sublist hkept.sublist) (eq_add_of_charge hcharge)
    | function | other =>
      obtain ⟨v, s₂, hv, h⟩ := exists_of_bind_eq_ok h
      cases h
      refine .leaf rfl rfl ⟨trivial, fun u hu => ?_⟩
      cases hu
      exact standsIn_of_standIn hv

theorem popMarked_within (hkeys : M.KeysDistinct handler) {t : Received}
    (h : m.popMarked handler s = .ok t s') :
    Within m (m.maxDepth + 1) m.maxElements 0 t := by
  obtain ⟨n, s₁, -, h₁⟩ := exists_of_bind_eq_ok h
  cases n with
  | zero => exact absurd h₁ (fails_mapError _ (fails_poison _) handler s₁ t s')
  | succ top =>
    obtain ⟨value, s₂, hvalue, h₂⟩ := exists_of_bind_eq_ok h₁
    obtain ⟨_, s₃, -, h₃⟩ := exists_of_bind_eq_ok h₂
    obtain ⟨⟨value, left⟩, s₄, hread, h₄⟩ := exists_of_bind_eq_ok h₃
    obtain rfl := ofExcept_eq_ok hread
    cases h₄
    have hwithin := readMarked_within hkeys _ _ _ _ _ _ (run_of_attempt_eq_ok hvalue)
    exact ⟨hwithin.depth, le_trans (Nat.le_add_right _ _) hwithin.elements, hwithin.sound⟩

theorem exists_popMarked {v : HostValue}
    (h : (m.pop : Crossing M δ Error HostValue) handler s = .ok v s') :
    ∃ t, m.popMarked handler s = .ok t s' ∧ t.value = v := by
  rw [← value_popMarked, map_eq_pure_bind] at h
  obtain ⟨t, s₁, hrun, hend⟩ := exists_of_bind_eq_ok h
  cases hend
  exact ⟨t, hrun, rfl⟩

/-- **What the host receives.**  Whatever the value was and whatever script did during its
conversion, if there is a result then it is made of null, truth values, numbers, strings, arrays and
maps with distinct strings for keys, and, where something without a host form was found, of leaves
that are the given override or else a sentinel.  No node is more than `maxDepth` deep, and there are
no more than `maxElements` elements and entries in all. -/
theorem received_within (hkeys : M.KeysDistinct handler) {v : HostValue}
    (h : (m.pop : Crossing M δ Error HostValue) handler s = .ok v s') :
    ∃ t, m.popMarked handler s = .ok t s' ∧ t.value = v ∧
      t.All m.Sound ∧ t.depth ≤ m.maxDepth ∧ t.elements ≤ m.maxElements := by
  obtain ⟨t, hrun, hvalue⟩ := exists_popMarked h
  have hwithin := popMarked_within hkeys hrun
  exact ⟨t, hrun, hvalue, hwithin.sound, Nat.le_of_lt_succ hwithin.depth, hwithin.elements⟩

end

end Marshaller

/-- The silent machine, which lists no key twice even if the object has it twice. -/
def Machine.listing : Machine :=
  { Machine.silent with
    keys := Machine.look fun o => o.members?.map fun members => (members.map Member.key).dedup }

theorem Machine.keysDistinct_listing (handler : Handler Machine.listing κ ω) :
    Machine.listing.KeysDistinct handler := by
  intro ref w w' names h
  simp only [Machine.listing, Machine.look] at h
  split at h
  · next members hmembers =>
    obtain ⟨o, -, ho⟩ := Option.bind_eq_some_iff.mp hmembers
    obtain ⟨_, -, rfl⟩ := Option.map_eq_some_iff.mp ho
    cases h
    exact List.nodup_dedup _
  · cases h

theorem Machine.showsData_listing {s : List DataObject} (hs : silentStore.tame s) :
    Machine.listing.ShowsData s (silentStore.heap s) := by
  intro ref o ho
  have hshown := silentStore.shows hs ref o ho
  cases o with
  | array items => exact ⟨hshown.shape, hshown.length, hshown.element⟩
  | plain members =>
    have ho : s[ref]? = some (.plain members) := ho
    have hkeys : listing.keys ref s = .done s (.ok (members.map Member.key)) := by
      show look _ ref s = _
      simp only [look, ho, Option.bind_some, DataObject.members?, Option.map_some,
        List.dedup_eq_self.mpr (hs ref _ ho)]
      rfl
    exact ⟨hshown.shape, hshown.toObject, hkeys, hshown.isEnumerable, hshown.has, hshown.get⟩
  | function => exact hshown

/-- A map with a function in it, and an array with another. -/
def nestedHeap : List DataObject :=
  [.plain [], .plain [⟨Text.units "k", .object 2, true⟩, ⟨Text.units "f", .object 3, true⟩,
    ⟨Text.units "t", .string [0x61], true⟩], .array [some (.object 3), none, some (.object 0)],
    .function]

theorem tame_nestedHeap : Machine.silentStore.tame nestedHeap :=
  Machine.tame_of_forall (by simp [nestedHeap, DataObject.Tidy, Text.units_inj])

/-- What is reached from the map. -/
def NestedValue (v : ScriptValue) : Prop :=
  v = .object 0 ∨ v = .object 1 ∨ v = .object 2 ∨ v = .object 3 ∨ v = .string [0x61] ∨
    v = .undefined

theorem nestedValue_closed (ref : Ref) (h : NestedValue (.object ref)) :
    ∃ o, Machine.silentStore.heap nestedHeap ref = some o ∧ ∀ w ∈ o.values, NestedValue w := by
  rcases h with h | h | h | h | h | h <;> cases h <;>
    exact ⟨_, rfl, by simp [DataObject.values, NestedValue]⟩

namespace Marshaller

/-- A function is left out of a map, and something stands in for it in an array. -/
theorem received_within_listing :
    let m : Marshaller := ⟨some (.callable ⟨7⟩), 2, 6⟩
    let members : List Member := [⟨Text.units "k", .object 2, true⟩,
      ⟨Text.units "f", .object 3, true⟩, ⟨Text.units "t", .string [0x61], true⟩]
    let items := [some (.object 3), none, some (.object 0)]
    let handler : Handler Machine.listing BoundFunction (HostState Unit) :=
      fun _ _ _ _ => .exhausted
    let s : Session Machine.listing BoundFunction (HostState Unit) :=
      ⟨⟨[.plain [], .plain members, .array items, .function], #[], ⟨.fresh, ()⟩⟩,
        #[.object 1], none⟩
    let t := Received.map [("k", .array [.standIn (.callable ⟨7⟩), .null, .map []]),
      ("t", .string "a")]
    ∃ t', m.popMarked handler s = .ok t' { s with slots := #[] } ∧ t'.value = t.value ∧
      t'.All m.Sound ∧ t'.depth ≤ m.maxDepth ∧ t'.elements ≤ m.maxElements := by
  intro m members items handler s t
  have hconverts : m.converts (Machine.silentStore.heap nestedHeap) (m.standInFor s.world.host)
      (.object 1) = .ok t.value := by with_unfolding_all rfl
  have hgives := pop_gives handler (m := m) (s := s) (a := #[])
    (Machine.showsData_listing tame_nestedHeap)
    (allData_of_closed nestedValue_closed (.inr (.inl rfl))) rfl rfl
  -- The override stands in, so that no sentinel has been built.
  have h : m.pop handler s = .ok t.value { s with slots := #[] } :=
    (hconverts ▸ hgives).eq_of_leaves (by decide +kernel)
  exact received_within (Machine.keysDistinct_listing handler) h

end Marshaller

end ScriptHost
