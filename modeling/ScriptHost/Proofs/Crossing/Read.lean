import ScriptHost.Proofs.Crossing.Converted
import ScriptHost.Proofs.Machine.Silent

/-!
# Reading data

A value that reaches nothing but data is read without running script, so the reading always comes to
an end.  It succeeds with the unfolding of the value as a host value if that is within the bounds
(`Marshaller.Admits`), and otherwise fails with an error that names a bound that the unfolding
exceeds (`Marshaller.Blames`).

* bounds: `Tree.Fits`, and `Marshaller.Blames` for an error about one of them;
* what is calculated: `decides_converted`, by way of `decidesItems` and `decidesEntries`;
* the whole conversion: `pop_ends`, and `pop_eq_unfolding` for the values that it answers with.
-/

namespace ScriptHost

open Stack Stacked Crossing

variable {M : Machine} {δ : Type} {handler : Handler M BoundFunction (HostState δ)}
  {s : Session M BoundFunction (HostState δ)} {a : Array ScriptValue}

/-! ## Bounds -/

/-- A tree that fits: it nests less than `levels` deep, takes its elements from a budget and leaves
`left` of it, and all its text is paired. -/
structure Tree.Fits (levels budget left : Nat) (t : Tree) : Prop where
  depth : t.depth < levels
  elements : t.elements + left = budget
  paired : t.Paired

/-- The same of all the trees in a container that fits one level higher. -/
structure Tree.AllFit (levels budget left : Nat) (ts : List Tree) : Prop where
  depth : Tree.depthUnder ts ≤ levels
  elements : Tree.elementsUnder ts + left = budget
  paired : Tree.AllPaired ts

theorem Tree.AllFit.nil {levels budget : Nat} : Tree.AllFit levels budget budget [] :=
  ⟨Nat.zero_le _, Nat.zero_add _, trivial⟩

theorem Tree.AllFit.cons {levels budget next left : Nat} {t : Tree} {ts : List Tree}
    (h : t.Fits levels budget next) (h' : Tree.AllFit levels next left ts) :
    Tree.AllFit levels budget left (t :: ts) where
  depth := by
    have := h.depth
    have := h'.depth
    simp only [Tree.depthUnder]
    omega
  elements := by
    have := h.elements
    have := h'.elements
    simp only [Tree.elementsUnder]
    omega
  paired := ⟨h.paired, h'.paired⟩

/-- The tree is a container of these: `count` elements are charged for itself. -/
structure Tree.Contains (count : Nat) (keys : List Units) (ts : List Tree) (t : Tree) : Prop where
  depth : t.depth = Tree.depthUnder ts
  elements : t.elements = count + Tree.elementsUnder ts
  paired : t.Paired ↔ (∀ key ∈ keys, Text.Paired key) ∧ Tree.AllPaired ts

/-- The value is a container of these values. -/
def Holds (heap : DataHeap) (v : ScriptValue) (count : Nat) (keys : List Units)
    (vs : List ScriptValue) : Prop :=
  ∀ t, Unfolds heap v t → ∃ ts, UnfoldsAll heap vs ts ∧ t.Contains count keys ts

theorem holds_array {heap : DataHeap} {ref : Ref} {items : List (Option ScriptValue)}
    (ho : heap ref = some (.array items)) :
    Holds heap (.object ref) items.length [] (items.map (·.getD .undefined)) := by
  intro t ht
  obtain ⟨ts, rfl, hts⟩ := ht.exists_of_array ho
  have hlength : ts.length = items.length := hts.length_eq.trans (List.length_map ..)
  exact ⟨ts, hts, rfl, by rw [Tree.elements, hlength], by simp [Tree.Paired]⟩

theorem holds_plain {heap : DataHeap} {ref : Ref} {members : List Member}
    (ho : heap ref = some (.plain members)) :
    Holds heap (.object ref) (members.filter Member.enumerable).length
      ((keptMembers heap members).map Member.key)
        ((keptMembers heap members).map Member.value) := by
  intro t ht
  obtain ⟨ts, rfl, hts⟩ := ht.exists_of_plain ho
  refine ⟨ts, hts, rfl, ?_, Iff.rfl⟩
  rw [Tree.elements, List.length_map, length_filter_enumerable]

theorem Holds.fits {heap : DataHeap} {v : ScriptValue} {vs : List ScriptValue} {keys : List Units}
    {levels budget count left left' : Nat} {t : Tree} {ts : List Tree}
    (h : Holds heap v count keys vs)
    (ht : Unfolds heap v t) (hts : UnfoldsAll heap vs ts) (hleft : count + left = budget)
    (hkeys : ∀ key ∈ keys, Text.Paired key) (hfit : Tree.AllFit levels left left' ts) :
    t.Fits (levels + 1) budget left' := by
  obtain ⟨ts', hts', hcontains⟩ := h t ht
  obtain rfl := hts.unique hts'
  have := hcontains.elements
  have := hfit.elements
  exact ⟨hcontains.depth ▸ Nat.lt_succ_of_le hfit.depth, by omega,
    hcontains.paired.mpr ⟨hkeys, hfit.paired⟩⟩

namespace Marshaller

variable (m : Marshaller)

/-- An error about a bound, and what it says. -/
inductive Blamed (deep many unpaired : Prop) : Error → Prop
  | deep (h : deep) : Blamed deep many unpaired (.typeError (tooDeep m.maxDepth))
  | many (h : many) :
    Blamed deep many unpaired (.typeError s!"value has more than {m.maxElements} elements")
  | unpaired (h : unpaired) (e : Text.EncodingError) : Blamed deep many unpaired (.encoding e)

/-- The error is about a bound that no unfolding of the value keeps. -/
def Blames (heap : DataHeap) (levels budget : Nat) (v : ScriptValue) : Error → Prop :=
  m.Blamed (∀ t, Unfolds heap v t → levels ≤ t.depth)
    (∀ t, Unfolds heap v t → budget < t.elements)
    (∀ t, Unfolds heap v t → ¬ t.Paired)

/-- The same of values in a container, which may have keys. -/
def BlamesAll (heap : DataHeap) (levels budget : Nat) (keys : List Units) (vs : List ScriptValue) :
    Error → Prop :=
  m.Blamed (∀ ts, UnfoldsAll heap vs ts → levels < Tree.depthUnder ts)
    (∀ ts, UnfoldsAll heap vs ts → budget < Tree.elementsUnder ts)
    (∀ ts, UnfoldsAll heap vs ts → ¬ ((∀ key ∈ keys, Text.Paired key) ∧ Tree.AllPaired ts))

variable {m} {heap : DataHeap} {levels budget : Nat} {v : ScriptValue} {vs : List ScriptValue}
  {keys : List Units} {e : Error}

theorem Blamed.imp {deep many unpaired deep' many' unpaired' : Prop}
    (h : m.Blamed deep many unpaired e) (hdeep : deep → deep') (hmany : many → many')
    (hunpaired : unpaired → unpaired') : m.Blamed deep' many' unpaired' e := by
  cases h with
  | deep h => exact .deep (hdeep h)
  | many h => exact .many (hmany h)
  | unpaired h e => exact .unpaired (hunpaired h) e

/-- A bound exceeded by the first value. -/
theorem Blames.head (h : m.Blames heap levels budget v e) :
    m.BlamesAll heap levels budget keys (v :: vs) e := by
  refine h.imp (fun hdeep ts hts => ?_) (fun hmany ts hts => ?_) fun hunpaired ts hts => ?_
  all_goals
    obtain _ | ⟨first, others⟩ := hts
  · have := hdeep _ first
    simp only [Tree.depthUnder]
    omega
  · have := hmany _ first
    simp only [Tree.elementsUnder]
    omega
  · exact fun hpaired => hunpaired _ first hpaired.2.1

/-- A bound exceeded behind the first value, once the elements of that have been taken off. -/
theorem BlamesAll.tail {t : Tree} {left : Nat} {keys' : List Units} (ht : Unfolds heap v t)
    (hleft : t.elements + left = budget) (hkeys : ∀ key ∈ keys', key ∈ keys)
    (h : m.BlamesAll heap levels left keys' vs e) :
    m.BlamesAll heap levels budget keys (v :: vs) e := by
  refine h.imp (fun hdeep ts hts => ?_) (fun hmany ts hts => ?_) fun hunpaired ts hts => ?_
  all_goals
    obtain _ | ⟨first, others⟩ := hts
    obtain rfl := ht.unique first
  · have := hdeep _ others
    simp only [Tree.depthUnder]
    omega
  · have := hmany _ others
    simp only [Tree.elementsUnder]
    omega
  · exact fun hpaired =>
      hunpaired _ others ⟨fun key hkey => hpaired.1 key (hkeys key hkey), hpaired.2.2⟩

theorem blames_many {count : Nat} (h : Holds heap v count keys vs) (hmany : budget < count) :
    m.Blames heap levels budget v
      (.typeError s!"value has more than {m.maxElements} elements") := by
  refine .many fun t ht => ?_
  obtain ⟨ts, -, hcontains⟩ := h t ht
  have := hcontains.elements
  omega

/-- A bound that the values in a container exceed is one that the container exceeds. -/
theorem BlamesAll.container {count left : Nat} (h : Holds heap v count keys vs)
    (hleft : count + left = budget) (he : m.BlamesAll heap levels left keys vs e) :
    m.Blames heap (levels + 1) budget v e := by
  refine he.imp (fun hdeep t ht => ?_) (fun hmany t ht => ?_) fun hunpaired t ht => ?_
  all_goals
    obtain ⟨ts, hts, hcontains⟩ := h t ht
  · exact hcontains.depth ▸ hdeep ts hts
  · have := hmany ts hts
    have := hcontains.elements
    omega
  · exact fun hpaired => hunpaired ts hts (hcontains.paired.mp hpaired)

/-! ## What is calculated -/

variable {standIn : HostValue}

variable (m) in
/-- The unfolding of `v` and what it leaves of the budget, or an error about a bound. -/
def Decides (heap : DataHeap) (standIn : HostValue) (levels budget : Nat) (v : ScriptValue) :
    Except Error (HostValue × Nat) → Prop
  | .ok (x, left) => ∃ t, Unfolds heap v t ∧ x = t.host standIn ∧ t.Fits levels budget left
  | .error e => m.Blames heap levels budget v e

variable (m) in
/-- The same of all values in a container. -/
def DecidesItems (heap : DataHeap) (standIn : HostValue) (levels budget : Nat)
    (vs : List ScriptValue) : Except Error (List HostValue × Nat) → Prop
  | .ok (xs, left) => ∃ ts, UnfoldsAll heap vs ts ∧ xs = Tree.hosts standIn ts ∧
      Tree.AllFit levels budget left ts
  | .error e => m.BlamesAll heap levels budget [] vs e

variable (m) in
/-- The same of these members, as far as they are the host's. -/
def DecidesEntries (heap : DataHeap) (standIn : HostValue) (levels budget : Nat)
    (members : List Member) : Except Error (List (HostValue × HostValue) × Nat) → Prop
  | .ok (entries, left) => ∃ ts, UnfoldsAll heap (members.map Member.value) ts ∧
      entries = ((members.map Member.key).map Tree.hostKey).zip (Tree.hosts standIn ts) ∧
      (∀ key ∈ members.map Member.key, Text.Paired key) ∧ Tree.AllFit levels budget left ts
  | .error e => m.BlamesAll heap levels budget (members.map Member.key) (members.map Member.value) e

theorem decidesItems {one : ScriptValue → Nat → Except Error (HostValue × Nat)}
    (hone : ∀ v ∈ vs, ∀ budget, m.Decides heap standIn levels budget v (one v budget)) :
    m.DecidesItems heap standIn levels budget vs (convertedItems one vs budget) := by
  induction vs generalizing budget with
  | nil => exact ⟨[], .nil, rfl, .nil⟩
  | cons v vs ih =>
    obtain ⟨hv, hvs⟩ := List.forall_mem_cons.mp hone
    have hfirst := hv budget
    rw [convertedItems]
    cases hread : one v budget with
    | error e =>
      rw [hread] at hfirst
      exact hfirst.head
    | ok read =>
      obtain ⟨x, next⟩ := read
      rw [hread] at hfirst
      obtain ⟨t, ht, rfl, hfits⟩ := hfirst
      have hrest : m.DecidesItems heap standIn levels next vs (convertedItems one vs next) := ih hvs
      show m.DecidesItems heap standIn levels budget (v :: vs) (convertedItems one vs next >>= _)
      cases hmore : convertedItems one vs next with
      | error e =>
        rw [hmore] at hrest
        exact hrest.tail ht hfits.elements (by simp)
      | ok more =>
        obtain ⟨xs, left⟩ := more
        rw [hmore] at hrest
        obtain ⟨ts, hts, rfl, hfit⟩ := hrest
        exact ⟨t :: ts, .cons ht hts, rfl, hfit.cons hfits⟩

theorem hostText_encodeUnits (key : Units) :
    (Text.Paired key ∧ hostText (Text.encodeUnits key) = .ok (Text.pairUnitsLossy key)) ∨
    ¬ Text.Paired key ∧ ∃ e, hostText (Text.encodeUnits key) = .error (.encoding e) := by
  unfold hostText
  rcases Text.fromEngineText_encodeUnits key with ⟨hpaired, htext⟩ | ⟨hunpaired, e, htext⟩
  · exact .inl ⟨hpaired, by rw [htext]; rfl⟩
  · exact .inr ⟨hunpaired, e, by rw [htext]; rfl⟩

section

variable {p : Member} {ps : List Member}

theorem keptMembers_cons_of_function (h : isFunction heap p.value = true) :
    keptMembers heap (p :: ps) = keptMembers heap ps := by
  simp [keptMembers, Member.isKept, h]

theorem keptMembers_cons (henumerable : p.enumerable = true)
    (h : isFunction heap p.value = false) :
    keptMembers heap (p :: ps) = p :: keptMembers heap ps := by
  simp [keptMembers, Member.isKept, henumerable, h]

theorem decidesEntries {one : ScriptValue → Nat → Except Error (HostValue × Nat)}
    (henumerable : ∀ p ∈ ps, p.enumerable = true)
    (hone : ∀ p ∈ ps, ∀ budget, m.Decides heap standIn levels budget p.value (one p.value budget)) :
    m.DecidesEntries heap standIn levels budget (keptMembers heap ps)
      (convertedEntries heap one ps budget) := by
  induction ps generalizing budget with
  | nil => exact ⟨[], .nil, rfl, by simp [keptMembers], .nil⟩
  | cons p ps ih =>
    obtain ⟨hp, hps⟩ := List.forall_mem_cons.mp henumerable
    obtain ⟨hv, hvs⟩ := List.forall_mem_cons.mp hone
    rw [convertedEntries]
    cases hfunction : isFunction heap p.value with
    | true =>
      rw [if_pos rfl, keptMembers_cons_of_function hfunction]
      exact ih hps hvs
    | false =>
      rw [if_neg Bool.false_ne_true, keptMembers_cons hp hfunction]
      rcases hostText_encodeUnits p.key with ⟨hpaired, htext⟩ | ⟨hunpaired, e, htext⟩
      · rw [htext]
        have hfirst := hv budget
        show m.DecidesEntries heap standIn levels budget _ (one p.value budget >>= _)
        cases hread : one p.value budget with
        | error e =>
          rw [hread] at hfirst
          exact hfirst.head
        | ok read =>
          obtain ⟨x, next⟩ := read
          rw [hread] at hfirst
          obtain ⟨t, ht, rfl, hfits⟩ := hfirst
          have hrest : m.DecidesEntries heap standIn levels next (keptMembers heap ps)
              (convertedEntries heap one ps next) := ih hps hvs
          show m.DecidesEntries heap standIn levels budget
            _ (convertedEntries heap one ps next >>= _)
          cases hmore : convertedEntries heap one ps next with
          | error e =>
            rw [hmore] at hrest
            exact hrest.tail ht hfits.elements fun key hkey => List.mem_cons_of_mem _ hkey
          | ok more =>
            obtain ⟨entries, left⟩ := more
            rw [hmore] at hrest
            obtain ⟨ts, hts, rfl, hkeys, hfit⟩ := hrest
            exact ⟨t :: ts, .cons ht hts, rfl, List.forall_mem_cons.mpr ⟨hpaired, hkeys⟩,
              hfit.cons hfits⟩
      · -- A key that is no text of the host is met before the value is looked at.
        rw [htext]
        exact .unpaired (fun _ _ h => hunpaired (h.1 _ List.mem_cons_self)) e

end

theorem charge_eq (budget count : Nat) :
    (∃ left, count + left = budget ∧ m.charge budget count = .ok left) ∨
    budget < count ∧
      m.charge budget count = .error
        (.typeError s!"value has more than {m.maxElements} elements") := by
  unfold charge
  split
  · exact .inl ⟨budget - count, by omega, rfl⟩
  · exact .inr ⟨by omega, rfl⟩

/-- **What is calculated is the unfolding**, or a bound that it exceeds is blamed. -/
theorem decides_converted (hall : AllData heap v) :
    m.Decides heap standIn levels budget v (m.converted heap standIn levels v budget) := by
  induction levels generalizing v budget with
  | zero => exact .deep fun _ _ => Nat.zero_le _
  | succ levels ih =>
    -- A value that is no container fits at every level and costs nothing.
    have hleaf {x : HostValue} {t : Tree} (ht : Unfolds heap v t) (hx : x = t.host standIn)
        (hdepth : t.depth = 0) (helements : t.elements = 0) (hpaired : t.Paired) :
        m.Decides heap standIn (levels + 1) budget v (.ok (x, budget)) :=
      ⟨t, ht, hx, by omega, by omega, hpaired⟩
    cases v with
    | undefined => exact hleaf .undefined rfl rfl rfl trivial
    | null => exact hleaf .null rfl rfl rfl trivial
    | boolean b => exact hleaf (.boolean b) rfl rfl rfl trivial
    | number x => exact hleaf (.number x) rfl rfl rfl trivial
    | string text =>
      rw [converted]
      rcases hostText_encodeUnits text with ⟨hpaired, htext⟩ | ⟨hunpaired, e, htext⟩
      · rw [htext]
        exact hleaf (.string text) rfl rfl rfl hpaired
      · rw [htext]
        refine .unpaired (fun t ht => ?_) e
        obtain rfl := ht.unique (.string text)
        exact hunpaired
    | symbol id => exact hleaf (.symbol id) rfl rfl rfl trivial
    | bigint n => exact hleaf (.bigint n) rfl rfl rfl trivial
    | object ref =>
      obtain ⟨o, ho⟩ := hall.object
      cases o with
      | array items =>
        simp only [converted, ho]
        rcases m.charge_eq budget items.length with ⟨left, hleft, hcharge⟩ | ⟨hmany, hcharge⟩
        · rw [hcharge]
          have hitems : m.DecidesItems heap standIn levels left (items.map (·.getD .undefined)) _ :=
            decidesItems fun w hw _ => ih (hall.of_mem ho hw)
          show m.Decides heap standIn _ _ _ (convertedItems _ _ left >>= _)
          cases hread : convertedItems (m.converted heap standIn levels)
            (items.map (·.getD .undefined)) left with
          | error e =>
            rw [hread] at hitems
            exact hitems.container (holds_array ho) hleft
          | ok read =>
            obtain ⟨xs, left'⟩ := read
            rw [hread] at hitems
            obtain ⟨ts, hts, rfl, hfit⟩ := hitems
            exact ⟨.array ts, .array ho hts, rfl,
              (holds_array ho).fits (.array ho hts) hts hleft (by simp) hfit⟩
        · rw [hcharge]
          exact blames_many (holds_array ho) hmany
      | plain members =>
        simp only [converted, ho]
        rcases m.charge_eq budget (members.filter Member.enumerable).length with
          ⟨left, hleft, hcharge⟩ | ⟨hmany, hcharge⟩
        · rw [hcharge]
          have hentries : m.DecidesEntries heap standIn levels left
              (keptMembers heap (members.filter Member.enumerable)) _ :=
            decidesEntries (fun p hp => (List.mem_filter.mp hp).2) fun p hp _ =>
              ih (hall.of_mem ho (List.mem_map_of_mem hp))
          rw [keptMembers_filter_enumerable] at hentries
          show m.Decides heap standIn _ _ _ (convertedEntries heap _ _ left >>= _)
          cases hread : convertedEntries heap (m.converted heap standIn levels)
            (members.filter Member.enumerable) left with
          | error e =>
            rw [hread] at hentries
            exact hentries.container (holds_plain ho) hleft
          | ok read =>
            obtain ⟨entries, left'⟩ := read
            rw [hread] at hentries
            obtain ⟨ts, hts, rfl, hkeys, hfit⟩ := hentries
            exact ⟨_, .plain ho hts, rfl, (holds_plain ho).fits (.plain ho hts) hts
              hleft hkeys hfit⟩
        · rw [hcharge]
          exact blames_many (holds_plain ho) hmany
      | function =>
        simp only [converted, ho]
        exact hleaf (.function ho) rfl rfl rfl trivial

/-! ## The whole conversion -/

variable (m) in
/-- The tree is within the bounds. -/
structure Admits (t : Tree) : Prop where
  depth : t.depth ≤ m.maxDepth
  elements : t.elements ≤ m.maxElements
  paired : t.Paired

/-- An error about a bound is raised only where there is no unfolding within the bounds. -/
theorem not_admits_of_blames {t : Tree} (h : m.Blames heap (m.maxDepth + 1) m.maxElements v e)
    (ht : Unfolds heap v t) : ¬ m.Admits t := by
  intro hadmits
  cases h with
  | deep h => exact Nat.not_le_of_lt (Nat.lt_succ_of_le hadmits.depth) (h t ht)
  | many h => exact Nat.not_lt_of_le hadmits.elements (h t ht)
  | unpaired h => exact h t ht hadmits.paired

variable (handler)

/-- The top slot is taken off; its value has been converted,
or a bound that it exceeds is blamed. -/
theorem pop_ends (hdata : M.ShowsData s.world.machine heap) (hv : AllData heap v)
    (hslots : s.slots = a.push v) (hp : s.poison = none) :
    (m.pop : Crossing M δ Error HostValue).ends handler
      (fun value s' => m.Keeps s a s' ∧ ∃ t, Unfolds heap v t ∧ m.Admits t ∧
        value = t.host (m.standInFor s.world.host))
      (fun e s' => m.Keeps s a s' ∧ m.Blames heap (m.maxDepth + 1) m.maxElements v e) s := by
  have hdecides : m.Decides heap (m.standInFor s.world.host) (m.maxDepth + 1) m.maxElements v _ :=
    decides_converted hv
  refine ends_mono (pop_gives handler hdata hv hslots hp) ?_ ?_
  all_goals
    rintro _ s' ⟨hs, hresult⟩
    rw [converts] at hresult
    generalize m.converted heap (m.standInFor s.world.host) _ v _ = read at hdecides hresult
    cases read <;> cases hresult
  · obtain ⟨t, ht, hx, hfits⟩ := hdecides
    have := hfits.elements
    exact ⟨hs, t, ht, ⟨Nat.le_of_lt_succ hfits.depth, by omega, hfits.paired⟩, hx⟩
  · exact ⟨hs, hdecides⟩

/-- **Conversion is unfolding.**  A value that reaches nothing but data is converted exactly if it
unfolds within the bounds, and then to its unfolding as a host value.  Otherwise the conversion
fails; so it does for every value that reaches a cycle. -/
theorem pop_eq_unfolding (hdata : M.ShowsData s.world.machine heap) (hv : AllData heap v)
    (hslots : s.slots = a.push v) (hp : s.poison = none) :
    (∀ value, (∃ s', (m.pop : Crossing M δ Error HostValue) handler s = .ok value s') ↔
      ∃ t, Unfolds heap v t ∧ m.Admits t ∧ value = t.host (m.standInFor s.world.host)) ∧
    ((∃ t, Unfolds heap v t ∧ m.Admits t) ∨
      ∃ e s', (m.pop : Crossing M δ Error HostValue) handler s = .error e s') ∧
    ∀ w, Reaches heap v w → OnCycle heap w →
      ∃ e s', (m.pop : Crossing M δ Error HostValue) handler s = .error e s' := by
  rcases outcome_of_ends (pop_ends (m := m) handler hdata hv hslots hp) with
    ⟨value, s₁, hpop, -, t, ht, hadmits, rfl⟩ | ⟨e, s₁, hpop, -, hblames⟩
  · refine ⟨fun value => ⟨?_, ?_⟩, .inl ⟨t, ht, hadmits⟩, fun w hreach hw => ?_⟩
    · rintro ⟨s₂, hpop'⟩
      rw [hpop] at hpop'
      cases hpop'
      exact ⟨t, ht, hadmits, rfl⟩
    · rintro ⟨t', ht', -, rfl⟩
      obtain rfl := ht.unique ht'
      exact ⟨s₁, hpop⟩
    · exact (not_unfolds_of_reaches_cycle hreach hw t ht).elim
  · refine ⟨fun value => ⟨?_, ?_⟩, .inr ⟨e, s₁, hpop⟩, fun _ _ _ => ⟨e, s₁, hpop⟩⟩
    · rintro ⟨s₂, hpop'⟩
      rw [hpop] at hpop'
      cases hpop'
    · rintro ⟨t, ht, hadmits, -⟩
      exact (not_admits_of_blames hblames ht hadmits).elim

/-- An array with a hole, a function, and a member that is not enumerable. -/
def sampleMembers : List Member :=
  [⟨Text.units "a", .object 1, true⟩, ⟨Text.units "f", .object 2, true⟩,
    ⟨Text.units "h", .null, false⟩]

/-- Of the members the array is left, and the hole in it has become null; an array that holds itself
cannot be converted. -/
theorem pop_eq_unfolding_silent :
    let session (objects : List DataObject) : Session Machine.silent BoundFunction
        (HostState Unit) :=
      ⟨⟨objects, #[], ⟨.fresh, ()⟩⟩, #[.object 0], none⟩
    let m : Marshaller := ⟨none, 2, 4⟩
    let handler : Handler Machine.silent BoundFunction (HostState Unit) := fun _ _ _ _ => .exhausted
    (∃ s', m.pop handler
        (session [.plain sampleMembers, .array [none, some (.boolean true)], .function]) =
      .ok (.map [(.string "a", .array [.null, .boolean true])]) s') ∧
    ∃ e s', m.pop handler (session [.array [some (.object 0)]]) = .error e s' := by
  intro session m handler
  constructor
  · let objects : List DataObject :=
      [.plain sampleMembers, .array [none, some (.boolean true)], .function]
    have hdata : Machine.silent.ShowsData objects (Machine.silentView.heap objects) := by
      have hkeys : (sampleMembers.map Member.key).Nodup := by decide
      exact Machine.silentStore.shows
        (Machine.tame_of_forall (List.forall_mem_cons.mpr ⟨hkeys, by simp [DataObject.Tidy]⟩))
    have ho : Machine.silentView.heap objects 0 = some (.plain sampleMembers) := rfl
    have ht : Unfolds (Machine.silentView.heap objects) (.object 0)
        (.object 1 [Text.units "a"] [.array [.null, .boolean true]]) :=
      Unfolds.plain ho
        (.cons (.array rfl (.cons .undefined (.cons (.boolean true) .nil))) .nil)
    refine ((pop_eq_unfolding (a := #[]) (m := m) handler hdata ht.allData rfl rfl).1 _).mpr
      ⟨_, ht, ⟨by decide, by decide, ?_⟩, ?_⟩
    · exact ⟨List.forall_mem_singleton.mpr (Text.paired_units "a"),
        ⟨trivial, trivial, trivial⟩, trivial⟩
    · simp [Tree.host, Tree.hosts, Tree.hostKey, Text.pairUnitsLossy_units]
  · let objects : List DataObject := [.array [some (.object 0)]]
    have hdata : Machine.silent.ShowsData objects (Machine.silentView.heap objects) :=
      Machine.silentStore.shows (Machine.tame_of_forall (List.forall_mem_singleton.mpr trivial))
    have hall : AllData (Machine.silentView.heap objects) (.object 0) := by
      refine allData_of_closed (P := fun w => w = .object 0) (fun ref h => ?_) rfl
      cases h
      exact ⟨_, rfl, fun w => List.mem_singleton.mp⟩
    exact (pop_eq_unfolding (a := #[]) (m := m) handler hdata hall rfl rfl).2.2 (.object 0)
      (.refl _) ⟨0, .array [some (.object 0)], .object 0, rfl, rfl, List.mem_cons_self, .refl _⟩

end Marshaller

end ScriptHost
