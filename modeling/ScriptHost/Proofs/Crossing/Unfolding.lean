import ScriptHost.Proofs.Machine.Data
import ScriptHost.Proofs.Text.Exchange
import ScriptHost.Value.Basic

/-!
# Unfolded values

A value unfolds into a tree along the elements of arrays and the enumerable members of other
objects; a shared object unfolds wherever it is met.  A member whose value is a function has no
place in the tree and is only counted.

* `Tree`, with its `depth`, its `elements`, and whether all its text is `Paired`; `Tree.host` is the
  tree as a host value;
* `Unfolds`: a value has at most one unfolding (`Unfolds.unique`), and none if it reaches a cycle
  (`not_unfolds_of_reaches_cycle`).
-/

namespace ScriptHost

/-- An unfolded value. -/
inductive Tree
  | null
  | boolean (b : Bool)
  | number (x : Float)
  | string (text : Units)
  /-- A value without a host form: a function, a symbol or a big integer. -/
  | formless
  | array (items : List Tree)
  /-- The members of an object, and how many more there were with a function for a value. -/
  | object (omitted : Nat) (keys : List Units) (values : List Tree)

namespace Tree

mutual

/-- The depth of the deepest node; the root has none. -/
def depth : Tree → Nat
  | array items => depthUnder items
  | object _ _ values => depthUnder values
  | _ => 0

/-- The depth of the deepest node under a container of these. -/
def depthUnder : List Tree → Nat
  | [] => 0
  | t :: rest => max (depth t + 1) (depthUnder rest)

end

mutual

/-- The elements and members of all containers, those with functions included. -/
def elements : Tree → Nat
  | array items => items.length + elementsUnder items
  | object omitted keys values => omitted + keys.length + elementsUnder values
  | _ => 0

/-- The sum of the `elements` of these. -/
def elementsUnder : List Tree → Nat
  | [] => 0
  | t :: rest => elements t + elementsUnder rest

end

mutual

/-- Every half in the text and the keys has its partner. -/
def Paired : Tree → Prop
  | string text => Text.Paired text
  | array items => AllPaired items
  | object _ keys values => (∀ key ∈ keys, Text.Paired key) ∧ AllPaired values
  | _ => True

/-- All of these are `Paired`. -/
def AllPaired : List Tree → Prop
  | [] => True
  | t :: rest => Paired t ∧ AllPaired rest

end

/-- A key of a host map. -/
def hostKey (key : Units) : HostValue := .string (Text.pairUnitsLossy key)

mutual

/-- The tree as a host value, with `standIn` for what has no host form.  Text that is paired becomes
the string with the same units. -/
def host (standIn : HostValue) : Tree → HostValue
  | null => .null
  | boolean b => .boolean b
  | number x => .number x
  | string text => .string (Text.pairUnitsLossy text)
  | formless => standIn
  | array items => .array (hosts standIn items)
  | object _ keys values => .map ((keys.map hostKey).zip (hosts standIn values))

/-- These as host values. -/
def hosts (standIn : HostValue) : List Tree → List HostValue
  | [] => []
  | t :: rest => host standIn t :: hosts standIn rest

end

end Tree

/-! ## Unfolding -/

section

variable (heap : DataHeap)

/-- The value is a function. -/
def isFunction : ScriptValue → Bool
  | .object ref =>
    match heap ref with
    | some .function => true
    | _ => false
  | _ => false

/-- The member is one of the host's: it is enumerable and its value is no function. -/
def Member.isKept (p : Member) : Bool := p.enumerable && !isFunction heap p.value

/-- The member is counted and left out: it is enumerable and its value is a function. -/
def Member.isOmitted (p : Member) : Bool := p.enumerable && isFunction heap p.value

/-- The members that are the host's. -/
def keptMembers (members : List Member) : List Member := members.filter (Member.isKept heap)

mutual

/-- A value and its unfolding. -/
inductive Unfolds : ScriptValue → Tree → Prop
  | undefined : Unfolds .undefined .null
  | null : Unfolds .null .null
  | boolean (b : Bool) : Unfolds (.boolean b) (.boolean b)
  | number (x : Float) : Unfolds (.number x) (.number x)
  | string (text : Units) : Unfolds (.string text) (.string text)
  | symbol (id : Nat) : Unfolds (.symbol id) .formless
  | bigint (n : Int) : Unfolds (.bigint n) .formless
  | function {ref : Ref} (h : heap ref = some .function) : Unfolds (.object ref) .formless
  | array {ref : Ref} {items : List (Option ScriptValue)} {trees : List Tree}
    (h : heap ref = some (.array items))
    (hitems : UnfoldsAll (items.map (·.getD .undefined)) trees) :
      Unfolds (.object ref) (.array trees)
  | plain {ref : Ref} {members : List Member} {trees : List Tree}
    (h : heap ref = some (.plain members))
    (hvalues : UnfoldsAll ((keptMembers heap members).map Member.value) trees) :
    Unfolds (.object ref) (.object (members.countP (Member.isOmitted heap))
      ((keptMembers heap members).map Member.key) trees)

/-- Values and their unfoldings, one by one. -/
inductive UnfoldsAll : List ScriptValue → List Tree → Prop
  | nil : UnfoldsAll [] []
  | cons {v : ScriptValue} {t : Tree} {vs : List ScriptValue} {ts : List Tree} (first : Unfolds v t)
    (others : UnfoldsAll vs ts) : UnfoldsAll (v :: vs) (t :: ts)

end

end

variable {heap : DataHeap}

theorem UnfoldsAll.length_eq {vs : List ScriptValue} {ts : List Tree} (h : UnfoldsAll heap vs ts) :
    ts.length = vs.length := by
  match h with
  | .nil => rfl
  | .cons _ others => simp [others.length_eq]

/-! ## The unfolding of an object -/

section

variable {ref : Ref} {t : Tree}

theorem Unfolds.eq_of_function (h : Unfolds heap (.object ref) t) (ho : heap ref = some .function) :
    t = .formless := by
  cases h with
  | function => rfl
  | array ho' => rw [ho] at ho'; cases ho'
  | plain ho' => rw [ho] at ho'; cases ho'

theorem Unfolds.exists_of_array {items : List (Option ScriptValue)}
    (h : Unfolds heap (.object ref) t) (ho : heap ref = some (.array items)) :
    ∃ ts, t = .array ts ∧ UnfoldsAll heap (items.map (·.getD .undefined)) ts := by
  cases h with
  | function ho' => rw [ho] at ho'; cases ho'
  | array ho' hitems => rw [ho] at ho'; cases ho'; exact ⟨_, rfl, hitems⟩
  | plain ho' => rw [ho] at ho'; cases ho'

theorem Unfolds.exists_of_plain {members : List Member} (h : Unfolds heap (.object ref) t)
    (ho : heap ref = some (.plain members)) :
    ∃ ts, t = .object (members.countP (Member.isOmitted heap))
      ((keptMembers heap members).map Member.key) ts ∧
      UnfoldsAll heap ((keptMembers heap members).map Member.value) ts := by
  cases h with
  | function ho' => rw [ho] at ho'; cases ho'
  | array ho' => rw [ho] at ho'; cases ho'
  | plain ho' hvalues => rw [ho] at ho'; cases ho'; exact ⟨_, rfl, hvalues⟩

end

mutual

/-- **A value has one unfolding.** -/
theorem Unfolds.unique {v : ScriptValue} {t t' : Tree} (h : Unfolds heap v t)
    (h' : Unfolds heap v t') : t = t' := by
  match h with
  | .undefined | .null | .boolean _ | .number _ | .string _ | .symbol _ | .bigint _ =>
    cases h'
    rfl
  | .function ho => exact (h'.eq_of_function ho).symm
  | .array ho hitems =>
    obtain ⟨ts, rfl, hitems'⟩ := h'.exists_of_array ho
    rw [hitems.unique hitems']
  | .plain ho hvalues =>
    obtain ⟨ts, rfl, hvalues'⟩ := h'.exists_of_plain ho
    rw [hvalues.unique hvalues']

theorem UnfoldsAll.unique {vs : List ScriptValue} {ts ts' : List Tree} (h : UnfoldsAll heap vs ts)
    (h' : UnfoldsAll heap vs ts') : ts = ts' := by
  match h, h' with
  | .nil, .nil => rfl
  | .cons first others, .cons first' others' => rw [first.unique first', others.unique others']

end

/-! ## Enumerable members -/

theorem keptMembers_filter_enumerable (members : List Member) :
    keptMembers heap (members.filter Member.enumerable) = keptMembers heap members := by
  rw [keptMembers, List.filter_filter]
  refine List.filter_congr fun p _ => ?_
  cases hp : p.enumerable <;> simp [Member.isKept, hp]

theorem length_filter_enumerable (heap : DataHeap) (members : List Member) :
    (members.filter Member.enumerable).length =
      members.countP (Member.isOmitted heap) + (keptMembers heap members).length := by
  induction members with
  | nil => rfl
  | cons p rest ih =>
    unfold keptMembers at ih ⊢
    cases hp : p.enumerable <;> cases hf : isFunction heap p.value <;>
      simp [Member.isOmitted, Member.isKept, hp, hf] at ih ⊢ <;> omega

/-! ## Cycles -/

theorem UnfoldsAll.exists_of_mem {vs : List ScriptValue} {ts : List Tree}
    (h : UnfoldsAll heap vs ts) {w : ScriptValue} (hw : w ∈ vs) : ∃ t, Unfolds heap w t ∧
      t.elements ≤ Tree.elementsUnder ts := by
  match h with
  | .nil => cases hw
  | .cons first others =>
    rcases List.mem_cons.mp hw with rfl | hw
    · exact ⟨_, first, Nat.le_add_right ..⟩
    · obtain ⟨t, ht, hle⟩ := others.exists_of_mem hw
      exact ⟨t, ht, Nat.le_trans hle (Nat.le_add_left ..)⟩

theorem unfolds_of_isFunction {v : ScriptValue} (h : isFunction heap v = true) :
    Unfolds heap v .formless := by
  unfold isFunction at h
  split at h
  · split at h
    · next ho => exact .function ho
    · cases h
  · cases h

/-- What an object holds has fewer elements than the object. -/
theorem Unfolds.exists_of_mem {ref : Ref} {o : DataObject} {t : Tree}
    (h : Unfolds heap (.object ref) t) (ho : heap ref = some o) {w : ScriptValue}
    (hw : w ∈ o.values) :
    ∃ t', Unfolds heap w t' ∧ t'.elements < t.elements := by
  cases o with
  | function => cases hw
  | array items =>
    obtain ⟨ts, rfl, hitems⟩ := h.exists_of_array ho
    obtain ⟨t', ht', hle⟩ := hitems.exists_of_mem hw
    have hlength := hitems.length_eq ▸ List.length_pos_of_mem hw
    exact ⟨t', ht', by simp only [Tree.elements]; omega⟩
  | plain members =>
    obtain ⟨ts, rfl, hvalues⟩ := h.exists_of_plain ho
    obtain ⟨p, hp, rfl⟩ := List.mem_map.mp hw
    have hlength := length_filter_enumerable heap members ▸ List.length_pos_of_mem hp
    simp only [Tree.elements, List.length_map]
    cases hfunction : isFunction heap p.value with
    | true => exact ⟨.formless, unfolds_of_isFunction hfunction, by
        simp only [Tree.elements]; omega⟩
    | false =>
      obtain ⟨hp, henumerable⟩ := List.mem_filter.mp hp
      have hkept : p ∈ keptMembers heap members :=
        List.mem_filter.mpr ⟨hp, by simp [Member.isKept, henumerable, hfunction]⟩
      obtain ⟨t', ht', hle⟩ := hvalues.exists_of_mem (List.mem_map_of_mem hkept)
      exact ⟨t', ht', by omega⟩

theorem Unfolds.exists_of_reaches {v w : ScriptValue} {t : Tree} (h : Unfolds heap v t)
    (hreach : Reaches heap v w) : ∃ t', Unfolds heap w t' ∧ t'.elements ≤ t.elements := by
  induction hreach generalizing t with
  | refl => exact ⟨t, h, Nat.le_refl _⟩
  | step ho hv _ ih =>
    obtain ⟨t₁, h₁, hlt⟩ := h.exists_of_mem ho hv
    obtain ⟨t₂, h₂, hle⟩ := ih h₁
    exact ⟨t₂, h₂, by omega⟩

/-- **A value that reaches a cycle has no unfolding.** -/
theorem not_unfolds_of_reaches_cycle {v w : ScriptValue} (hreach : Reaches heap v w)
    (hw : OnCycle heap w) (t : Tree) : ¬ Unfolds heap v t := by
  intro h
  obtain ⟨t₁, h₁, -⟩ := h.exists_of_reaches hreach
  obtain ⟨ref, o, u, rfl, ho, hu, hback⟩ := hw
  obtain ⟨t₂, h₂, hlt⟩ := h₁.exists_of_mem ho hu
  obtain ⟨t₃, h₃, hle⟩ := h₂.exists_of_reaches hback
  -- Once round the cycle the value would have fewer elements than it has.
  obtain rfl := h₁.unique h₃
  omega

/-! ## Larger heaps -/

theorem Unfolds.isFunction_eq {heap' : DataHeap} {v : ScriptValue} {t : Tree} (h : Unfolds heap v t)
    (hmono : ∀ ref o, heap ref = some o → heap' ref = some o) :
    isFunction heap' v = isFunction heap v := by
  cases h with
  | function ho | array ho | plain ho => simp only [isFunction, ho, hmono _ _ ho]
  | _ => rfl

theorem UnfoldsAll.exists_of_member {members : List Member} {ts : List Tree}
    (h : UnfoldsAll heap ((keptMembers heap members).map Member.value) ts) {p : Member}
    (hp : p ∈ members) (henumerable : p.enumerable = true) : ∃ t, Unfolds heap p.value t := by
  cases hfunction : isFunction heap p.value with
  | true => exact ⟨.formless, unfolds_of_isFunction hfunction⟩
  | false =>
    have hkept : p ∈ keptMembers heap members :=
      List.mem_filter.mpr ⟨hp, by simp [Member.isKept, henumerable, hfunction]⟩
    obtain ⟨t, ht, -⟩ := h.exists_of_mem (List.mem_map_of_mem hkept)
    exact ⟨t, ht⟩

mutual

/-- A value unfolds in every larger heap as it does in the smaller one. -/
theorem Unfolds.mono {heap' : DataHeap} {v : ScriptValue} {t : Tree} (h : Unfolds heap v t)
    (hmono : ∀ ref o, heap ref = some o → heap' ref = some o) : Unfolds heap' v t := by
  match h with
  | .undefined => exact .undefined
  | .null => exact .null
  | .boolean b => exact .boolean b
  | .number x => exact .number x
  | .string text => exact .string text
  | .symbol id => exact .symbol id
  | .bigint n => exact .bigint n
  | .function ho => exact .function (hmono _ _ ho)
  | .array ho hitems => exact .array (hmono _ _ ho) (hitems.mono hmono)
  | @Unfolds.plain _ ref members trees ho hvalues =>
    -- No member changes sides, because each that is enumerable has an unfolding already.
    have hsame : ∀ p ∈ members, p.enumerable = true →
        isFunction heap' p.value = isFunction heap p.value := by
      intro p hp henumerable
      obtain ⟨t, ht⟩ := hvalues.exists_of_member hp henumerable
      exact ht.isFunction_eq hmono
    have hkept : keptMembers heap' members = keptMembers heap members := by
      refine List.filter_congr fun p hp => ?_
      cases henumerable : p.enumerable <;> simp [Member.isKept, henumerable, hsame p hp]
    have homitted : members.countP (Member.isOmitted heap') =
        members.countP (Member.isOmitted heap) := by
      refine List.countP_congr fun p hp => ?_
      cases henumerable : p.enumerable <;> simp [Member.isOmitted, henumerable, hsame p hp]
    have hplain := Unfolds.plain (hmono _ _ ho) (hkept ▸ hvalues.mono hmono)
    rwa [hkept, homitted] at hplain

theorem UnfoldsAll.mono {heap' : DataHeap} {vs : List ScriptValue} {ts : List Tree}
    (h : UnfoldsAll heap vs ts) (hmono : ∀ ref o, heap ref = some o → heap' ref = some o) :
    UnfoldsAll heap' vs ts := by
  match h with
  | .nil => exact .nil
  | .cons first others => exact .cons (first.mono hmono) (others.mono hmono)

end

theorem Unfolds.allData {v : ScriptValue} {t : Tree} (h : Unfolds heap v t) : AllData heap v := by
  intro ref hreach
  obtain ⟨t', ht', -⟩ := h.exists_of_reaches hreach
  cases ht' with
  | function ho | array ho | plain ho => exact ⟨_, ho⟩

end ScriptHost
