import ScriptHost.Crossing.Push
import ScriptHost.Proofs.Crossing.Effect
import ScriptHost.Proofs.Crossing.Thrown
import ScriptHost.Proofs.Machine.Blank
import ScriptHost.Proofs.Stack.Data
import ScriptHost.Proofs.Stack.Effect
import ScriptHost.Proofs.Stack.Look
import ScriptHost.Proofs.Value.Equality

/-!
# What is refused on the way to the script

A host value can be refused for more than one reason and at more than one place.
`Marshaller.offences` lists all of them, in the order in which they stand in the value and without
stopping at any; the conversion goes from left to right and stops at the first.

* `HostValue.Node`: the values in a value, each with its depth; map keys are not among them;
* `Offence`, `Marshaller.offences`, and `mem_offences_iff`: what is listed is just what is there;
* `Marshaller.Stores`: the script does not get in the way of what is converted;
* `pushValue_ends`, and `push_refuses_first`: **the first offence is what is reported**.
-/

namespace ScriptHost

open Stack Stacked Crossing

/-! ## Offences -/

/-- `u` is in the value at this depth: the value itself, or an item or the value of an entry. -/
inductive HostValue.Node (u : HostValue) : HostValue → Nat → Prop
  | root : Node u u 0
  | item {items : List HostValue} {v : HostValue} {n : Nat} (hv : v ∈ items) (h : Node u v n) :
    Node u (.array items) (n + 1)
  | value {entries : List (HostValue × HostValue)} {e : HostValue × HostValue} {n : Nat}
    (he : e ∈ entries) (h : Node u e.2 n) : Node u (.map entries) (n + 1)

/-- What keeps a value from having a script form. -/
inductive Offence
  /-- It nests too deep. -/
  | tooDeep
  /-- There is no form for this value, or this is not a key. -/
  | unsupported (v : HostValue)

/-- The error for an offence. -/
def Offence.error (m : Marshaller) : Offence → Error
  | tooDeep => .argumentType s!"value nesting exceeds maximum depth of {m.maxDepth}"
  | unsupported v => .argumentType s!"unsupported type {v.typeName}"

namespace Marshaller

variable (m : Marshaller)

mutual

/-- The offences of the value at nesting `level`: of a node first its depth, then its kind, then
those of what it contains. -/
def offences (level : Nat) (v : HostValue) : List Offence :=
  (if m.maxDepth < level then [.tooDeep] else []) ++
    match v with
    | .array items => itemOffences level items
    | .map entries => entryOffences level entries
    | .complexObject sentinel => [.unsupported (.complexObject sentinel)]
    | .foreign name => [.unsupported (.foreign name)]
    | _ => []

def itemOffences (level : Nat) : List HostValue → List Offence
  | [] => []
  | item :: rest => offences (level + 1) item ++ itemOffences level rest

/-- A key comes before its value, and all of that before the next key. -/
def entryOffences (level : Nat) : List (HostValue × HostValue) → List Offence
  | [] => []
  | (key, item) :: rest =>
    (if key.asString?.isNone then [.unsupported key] else []) ++
      (offences (level + 1) item ++ entryOffences level rest)

end

/-- The node `u` is at fault itself, at nesting `level`. -/
inductive Faulty (level : Nat) : HostValue → Offence → Prop
  | tooDeep {u : HostValue} (h : m.maxDepth < level) : Faulty level u .tooDeep
  | complexObject {sentinel : Sentinel} :
    Faulty level (.complexObject sentinel) (.unsupported (.complexObject sentinel))
  | foreign {name : String} : Faulty level (.foreign name) (.unsupported (.foreign name))
  | key {entries : List (HostValue × HostValue)} {e : HostValue × HostValue} (he : e ∈ entries)
    (hkey : ∀ name, e.1 ≠ .string name) : Faulty level (.map entries) (.unsupported e.1)

/-- A node of the value is at fault. -/
def Offends (level : Nat) (v : HostValue) (o : Offence) : Prop :=
  ∃ u n, HostValue.Node u v n ∧ m.Faulty (level + n) u o

variable {m} {level : Nat} {o : Offence}

theorem offends_array_iff {items : List HostValue} : m.Offends level (.array items) o ↔
    m.Faulty level (.array items) o ∨ ∃ v ∈ items, m.Offends (level + 1) v o := by
  constructor
  · rintro ⟨u, _, hnode, hu⟩
    cases hnode with
    | root => exact .inl hu
    | @item _ v n hv h => exact .inr ⟨v, hv, u, n, h, by rwa [Nat.add_assoc, Nat.add_comm 1]⟩
  · rintro (h | ⟨v, hv, u, n, hnode, hu⟩)
    · exact ⟨_, 0, .root, h⟩
    · exact ⟨u, n + 1, .item hv hnode, by rwa [Nat.add_assoc, Nat.add_comm 1] at hu⟩

theorem offends_map_iff {entries : List (HostValue × HostValue)} :
    m.Offends level (.map entries) o ↔
      m.Faulty level (.map entries) o ∨ ∃ e ∈ entries, m.Offends (level + 1) e.2 o := by
  constructor
  · rintro ⟨u, _, hnode, hu⟩
    cases hnode with
    | root => exact .inl hu
    | @value _ e n he h => exact .inr ⟨e, he, u, n, h, by rwa [Nat.add_assoc, Nat.add_comm 1]⟩
  · rintro (h | ⟨e, he, u, n, hnode, hu⟩)
    · exact ⟨_, 0, .root, h⟩
    · exact ⟨u, n + 1, .value he hnode, by rwa [Nat.add_assoc, Nat.add_comm 1] at hu⟩

theorem itemOffences_eq (level : Nat) (items : List HostValue) :
    m.itemOffences level items = items.flatMap (m.offences (level + 1)) := by
  induction items with
  | nil => rfl
  | cons item rest ih => rw [itemOffences, ih, List.flatMap_cons]

theorem mem_entryOffences_iff {entries : List (HostValue × HostValue)} :
    o ∈ m.entryOffences level entries ↔ ∃ e ∈ entries,
      ((∀ name, e.1 ≠ .string name) ∧ o = .unsupported e.1) ∨ o ∈ m.offences (level + 1) e.2 := by
  induction entries with
  | nil => simp [entryOffences]
  | cons e rest ih =>
    have hkey : e.1.asString?.isNone = true ↔ ∀ name, e.1 ≠ .string name := by
      cases e.1 <;> simp [HostValue.asString?]
    rw [entryOffences, List.mem_append, List.mem_append, ih, List.exists_mem_cons_iff, or_assoc]
    simp [← hkey]

theorem mem_depth_iff : o ∈ (if m.maxDepth < level then [.tooDeep] else [] : List Offence) ↔
    m.maxDepth < level ∧ o = .tooDeep := by
  split <;> simp_all

/-- The faults of a value that is not a container. -/
theorem mem_iff_of_leaf {v : HostValue} {kind : List Offence}
    (hleaf : ∀ u n, HostValue.Node u v n → u = v ∧ n = 0)
    (hfaulty : m.Faulty level v o → o = .tooDeep ∨ o ∈ kind)
    (hkind : o ∈ kind → m.Faulty level v o) :
    o ∈ (if m.maxDepth < level then [.tooDeep] else []) ++ kind ↔ m.Offends level v o := by
  rw [List.mem_append, mem_depth_iff]
  constructor
  · rintro (⟨h, rfl⟩ | h)
    · exact ⟨v, 0, .root, .tooDeep h⟩
    · exact ⟨v, 0, .root, hkind h⟩
  · rintro ⟨u, n, hnode, hu⟩
    obtain ⟨rfl, rfl⟩ := hleaf u n hnode
    rcases hfaulty hu with rfl | h
    · cases hu with | tooDeep h => exact .inl ⟨h, rfl⟩
    · exact .inr h

/-- **What is listed is what is there.** -/
theorem mem_offences_iff {v : HostValue} : o ∈ m.offences level v ↔ m.Offends level v o := by
  induction v using HostValue.induction generalizing level with
  | array items ih =>
    have hhere : m.Faulty level (.array items) o ↔ m.maxDepth < level ∧ o = .tooDeep :=
      ⟨fun h => by cases h with | tooDeep h => exact ⟨h, rfl⟩, fun ⟨h, ho⟩ => ho ▸ .tooDeep h⟩
    rw [offends_array_iff, offences, List.mem_append, mem_depth_iff, hhere]
    refine or_congr_right ?_
    rw [itemOffences_eq, List.mem_flatMap]
    exact exists_congr fun v => and_congr_right fun hv => ih v hv
  | map entries ih =>
    rw [offends_map_iff, offences, List.mem_append, mem_depth_iff, mem_entryOffences_iff]
    constructor
    · rintro (⟨h, rfl⟩ | ⟨e, he, ⟨hkey, rfl⟩ | h⟩)
      · exact .inl (.tooDeep h)
      · exact .inl (.key he hkey)
      · exact .inr ⟨e, he, (ih e he).2.mp h⟩
    · rintro (h | ⟨e, he, h⟩)
      · cases h with
        | tooDeep h => exact .inl ⟨h, rfl⟩
        | key he hkey => exact .inr ⟨_, he, .inl ⟨hkey, rfl⟩⟩
      · exact .inr ⟨e, he, .inr ((ih e he).2.mpr h)⟩
  | complexObject sentinel =>
    refine mem_iff_of_leaf (fun u n h => ?_) (fun h => ?_) fun h => ?_
    · cases h; exact ⟨rfl, rfl⟩
    · cases h with
      | tooDeep => exact .inl rfl
      | complexObject => exact .inr List.mem_cons_self
    · rw [List.mem_singleton.mp h]; exact .complexObject
  | foreign name =>
    refine mem_iff_of_leaf (fun u n h => ?_) (fun h => ?_) fun h => ?_
    · cases h; exact ⟨rfl, rfl⟩
    · cases h with
      | tooDeep => exact .inl rfl
      | foreign => exact .inr List.mem_cons_self
    · rw [List.mem_singleton.mp h]; exact .foreign
  | _ =>
    refine mem_iff_of_leaf (fun u n h => ?_) (fun h => ?_) fun h => absurd h List.not_mem_nil
    · cases h; exact ⟨rfl, rfl⟩
    · cases h with | tooDeep => exact .inl rfl

/-! ## The walk -/

section

variable {M : Machine} {δ : Type} (m : Marshaller) (handler : Handler M BoundFunction (HostState δ))

/-- The machine does not throw when the top is stored in the object that is in the slot. -/
def StoresTop (store : Ref → ScriptValue → M.State → Act M.State Unit) (slot : Nat)
    (s : Session M BoundFunction (HostState δ)) : Prop :=
  ∀ ref v, s.slots[slot]? = some (.object ref) → s.slots.back? = some v →
    ∃ w, (store ref v s.world.machine).drive handler s.world = .ended (.ok ()) w

mutual

/-- In the conversion of the value at nesting `level`, which starts from the session, no append to
an array and no definition of a property throws. -/
def Stores (level : Nat) : HostValue → Session M BoundFunction (HostState δ) → Prop
  | .array items, s => level ≤ m.maxDepth → ∀ array s₁,
    (pushArray : Crossing M δ Error Nat) handler s = .ok array s₁ →
      StoresItems level array items s₁
  | .map entries, s => level ≤ m.maxDepth → ∀ object s₁,
    (pushObject : Crossing M δ Error Nat) handler s = .ok object s₁ →
      StoresEntries level object entries s₁
  | _, _ => True

/-- Each item, once it has been converted, is appended. -/
def StoresItems (level array : Nat) :
    List HostValue → Session M BoundFunction (HostState δ) → Prop
  | [], _ => True
  | item :: rest, s => Stores (level + 1) item s ∧
    ∀ s₁, m.pushValue (level + 1) item handler s = .ok () s₁ →
      StoresTop handler M.append array s₁ ∧
      ∀ s₂, (check (append array) : Crossing M δ Error Unit) handler s₁ = .ok () s₂ →
        StoresItems level array rest s₂

/-- Each value that stands under a string, once it has been converted, is defined. -/
def StoresEntries (level object : Nat) :
    List (HostValue × HostValue) → Session M BoundFunction (HostState δ) → Prop
  | [], _ => True
  | (.string name, item) :: rest, s => Stores (level + 1) item s ∧
    ∀ s₁, m.pushValue (level + 1) item handler s = .ok () s₁ →
      StoresTop handler (fun ref => M.define ref (Text.units name)) object s₁ ∧
      ∀ s₂, (check (putProp object (Text.utf8 name)) : Crossing M δ Error Unit) handler s₁ =
          .ok () s₂ →
        StoresEntries level object rest s₂
  | _, _ => True

end

variable {m handler} {broken : Payload → World M BoundFunction (HostState δ) → Prop}
  {s s₁ : Session M BoundFunction (HostState δ)} {v : ScriptValue} {ref : Ref} {slot : Nat}

/-- The machine is asked to store the top, and then that is off the stack. -/
theorem exists_stored (T : Trust handler broken) (hs : s.Becomes (s.slots.push v) s₁)
    (hslot : s.slots[slot]? = some (.object ref))
    {store : Ref → ScriptValue → M.State → Act M.State Unit} (hstore : M.IsRun (store ref v))
    (h : StoresTop handler store slot s₁) : s₁.slots[slot]? = some (.object ref) ∧
      ∃ w, (store ref v s₁.world.machine).drive handler s₁.world = .ended (.ok ()) w ∧
        s.Becomes s.slots { s₁ with slots := s.slots, world := w } := by
  have hslot₁ : s₁.slots[slot]? = some (.object ref) := by
    rw [hs.slots]
    exact getElem?_push_of_some hslot v
  obtain ⟨w, hdrive⟩ := h ref v hslot₁ (by rw [hs.slots, Array.back?_push])
  have hlater := T.runs hstore s₁.world
  rw [hdrive] at hlater
  exact ⟨hslot₁, w, hdrive, (hs.setSlots s.slots).setWorld hlater⟩

theorem append_stores_ends (T : Trust handler broken) (hs : s.Becomes (s.slots.push v) s₁)
    (hslot : s.slots[slot]? = some (.object ref)) (hshape : M.shape s.world.machine ref = .array)
    (h : StoresTop handler M.append slot s₁) :
    (check (append slot) : Crossing M δ Error Unit).ends handler
      (fun _ s' => s.Becomes s.slots s') (fun _ _ => False) s₁ := by
  obtain ⟨hslot₁, w, hdrive, hstored⟩ := exists_stored T hs hslot (.append ref v) h
  refine check_ends ?_
  unfold append
  rw [ends_bind]
  refine arrayAt_ends hslot₁ (hs.shape hshape) ?_
  rw [ends_bind]
  exact takeTop_ends hs.slots (perform_ends_of_ok hdrive hstored)

theorem putProp_stores_ends (T : Trust handler broken) (hs : s.Becomes (s.slots.push v) s₁)
    (hslot : s.slots[slot]? = some (.object ref)) {name : String}
    (h : StoresTop handler (fun ref => M.define ref (Text.units name)) slot s₁) :
    (check (putProp slot (Text.utf8 name)) : Crossing M δ Error Unit).ends handler
      (fun _ s' => s.Becomes s.slots s') (fun _ _ => False) s₁ := by
  obtain ⟨hslot₁, w, hdrive, hstored⟩ := exists_stored T hs hslot (.define ref _ v) h
  refine check_ends ?_
  unfold putProp
  rw [ends_bind, Text.decodeUnits_utf8]
  refine objectAt_ends hslot₁ ?_
  rw [ends_bind]
  exact takeTop_ends hs.slots (perform_ends_of_ok hdrive hstored)

mutual

/-- A value is converted, or its first offence is reported. -/
theorem pushValue_ends (T : Trust handler broken) (level : Nat) (v : HostValue)
    (s : Session M BoundFunction (HostState δ)) (h : m.Stores handler level v s) :
    (m.pushValue level v : Crossing M δ Error Unit).ends handler
      (fun _ s' => m.offences level v = [] ∧ ∃ u, s.Becomes (s.slots.push u) s')
      (fun e _ => ∃ o, (m.offences level v).head? = some o ∧ e = o.error m) s := by
  unfold pushValue offences
  by_cases hlevel : m.maxDepth < level
  · rw [if_pos hlevel, if_pos hlevel]
    exact ⟨.tooDeep, rfl, rfl⟩
  · rw [if_neg hlevel, if_neg hlevel, List.nil_append]
    cases v with
    | array items =>
      let s₁ : Session M BoundFunction (HostState δ) :=
        { s with
          world := { s.world with machine := (M.newArray s.world.machine).2 }
          slots := s.slots.push (.object (M.newArray s.world.machine).1) }
      have hrun : (pushArray : Crossing M δ Error Nat) handler s = .ok s.slots.size s₁ := rfl
      have hs₁ : s.Becomes s₁.slots s₁ := (Session.Becomes.refl s).setWorld (T.makes .newArray _)
        |>.setSlots _
      refine ends_of_ok hrun (ends_mono (pushItems_ends T level items s₁ Array.getElem?_push_size
        (T.newArray _) (h (by omega) _ s₁ hrun)) ?_ fun _ _ h => h)
      exact fun _ s' h => ⟨h.1, _, hs₁.trans h.2⟩
    | map entries =>
      let s₁ : Session M BoundFunction (HostState δ) :=
        { s with
          world := { s.world with machine := (M.newObject s.world.machine).2 }
          slots := s.slots.push (.object (M.newObject s.world.machine).1) }
      have hrun : (pushObject : Crossing M δ Error Nat) handler s = .ok s.slots.size s₁ := rfl
      have hs₁ : s.Becomes s₁.slots s₁ := (Session.Becomes.refl s).setWorld (T.makes .newObject _)
        |>.setSlots _
      refine ends_of_ok hrun (ends_mono (pushEntries_ends T level entries s₁
        Array.getElem?_push_size (h (by omega) _ s₁ hrun)) ?_ fun _ _ h => h)
      exact fun _ s' h => ⟨h.1, _, hs₁.trans h.2⟩
    | complexObject sentinel => exact ⟨_, rfl, rfl⟩
    | foreign name => exact ⟨_, rfl, rfl⟩
    | callable f => exact ⟨rfl, _,
        ((Session.Becomes.refl s).setWorld (T.makes (.newNative _ _) _)).setSlots _⟩
    | _ => exact ⟨rfl, _, .setSlots (.refl s) _⟩

theorem pushItems_ends (T : Trust handler broken) (level : Nat) (items : List HostValue)
    (s : Session M BoundFunction (HostState δ)) {array : Nat} {ref : Ref}
    (hslot : s.slots[array]? = some (.object ref)) (hshape : M.shape s.world.machine ref = .array)
    (h : m.StoresItems handler level array items s) :
    (m.pushItems level array items : Crossing M δ Error Unit).ends handler
      (fun _ s' => m.itemOffences level items = [] ∧ s.Becomes s.slots s')
      (fun e _ => ∃ o, (m.itemOffences level items).head? = some o ∧ e = o.error m) s := by
  cases items with
  | nil => exact ⟨rfl, .refl s⟩
  | cons item rest =>
    obtain ⟨hitem, hnext⟩ := h
    unfold pushItems itemOffences
    rcases outcome_of_ends (pushValue_ends T (level + 1) item s hitem) with
      ⟨_, s₁, hrun, hnone, v, hs₁⟩ | ⟨_, s₁, hrun, o, ho, rfl⟩
    · obtain ⟨hstores, hrest⟩ := hnext s₁ hrun
      rcases outcome_of_ends (append_stores_ends T hs₁ hslot hshape hstores) with
        ⟨_, s₂, hstored, hs₂⟩ | ⟨_, _, _, h⟩
      · rw [hnone, List.nil_append]
        refine ends_of_ok hrun (ends_of_ok hstored ?_)
        refine ends_mono (pushItems_ends T level rest s₂ (hs₂.slots ▸ hslot) (hs₂.shape hshape)
          (hrest s₂ hstored)) ?_ fun _ _ h => h
        exact fun _ _ h => ⟨h.1, hs₂.slots ▸ hs₂.trans h.2⟩
      · exact h.elim
    · exact ends_of_error hrun ⟨o, by simp [ho], rfl⟩

theorem pushEntries_ends (T : Trust handler broken) (level : Nat)
    (entries : List (HostValue × HostValue))
    (s : Session M BoundFunction (HostState δ)) {object : Nat} {ref : Ref}
    (hslot : s.slots[object]? = some (.object ref))
    (h : m.StoresEntries handler level object entries s) :
    (m.pushEntries level object entries : Crossing M δ Error Unit).ends handler
      (fun _ s' => m.entryOffences level entries = [] ∧ s.Becomes s.slots s')
      (fun e _ => ∃ o, (m.entryOffences level entries).head? = some o ∧ e = o.error m) s := by
  match entries, h with
  | [], _ => exact ⟨rfl, .refl s⟩
  | (.string name, item) :: rest, h =>
    obtain ⟨hitem, hnext⟩ := h
    unfold pushEntries entryOffences
    rcases outcome_of_ends (pushValue_ends T (level + 1) item s hitem) with
      ⟨_, s₁, hrun, hnone, v, hs₁⟩ | ⟨_, s₁, hrun, o, ho, rfl⟩
    · obtain ⟨hstores, hrest⟩ := hnext s₁ hrun
      rcases outcome_of_ends (putProp_stores_ends T hs₁ hslot hstores) with
        ⟨_, s₂, hstored, hs₂⟩ | ⟨_, _, _, h⟩
      · rw [hnone, List.nil_append]
        refine ends_of_ok hrun (ends_of_ok hstored ?_)
        refine ends_mono (pushEntries_ends T level rest s₂ (hs₂.slots ▸ hslot) (hrest s₂ hstored))
          ?_ fun _ _ h => h
        exact fun _ _ h => ⟨h.1, hs₂.slots ▸ hs₂.trans h.2⟩
      · exact h.elim
    · refine ends_of_error hrun ⟨o, ?_, rfl⟩
      simp [HostValue.asString?, ho]
  | (.null, _) :: _, _ => exact ⟨_, rfl, rfl⟩
  | (.boolean _, _) :: _, _ => exact ⟨_, rfl, rfl⟩
  | (.number _, _) :: _, _ => exact ⟨_, rfl, rfl⟩
  | (.array _, _) :: _, _ => exact ⟨_, rfl, rfl⟩
  | (.map _, _) :: _, _ => exact ⟨_, rfl, rfl⟩
  | (.complexObject _, _) :: _, _ => exact ⟨_, rfl, rfl⟩
  | (.callable _, _) :: _, _ => exact ⟨_, rfl, rfl⟩
  | (.foreign _, _) :: _, _ => exact ⟨_, rfl, rfl⟩

end

/-! ## The whole conversion -/

theorem push_ends (T : Trust handler broken) {v : HostValue}
    (h : m.Stores handler 0 v s) : (m.push v : Crossing M δ Error Unit).ends handler
      (fun _ _ => m.offences 0 v = [])
      (fun e _ => ∃ o, (m.offences 0 v).head? = some o ∧ e = o.error m) s := by
  unfold push depth
  simp only [ends_bind, ends_read, ends_attempt]
  exact ends_mono (pushValue_ends T 0 v s h) (fun _ _ h => h.1) fun _ _ h => h

end

/-- On a machine that never throws when something is stored, nothing gets in the way. -/
theorem stores_of_forall {M : Machine} {δ : Type} {handler : Handler M BoundFunction (HostState δ)}
    (happend : ∀ ref v w, ∃ w', (M.append ref v w.machine).drive handler w = .ended (.ok ()) w')
    (hdefine : ∀ ref name v w,
      ∃ w', (M.define ref name v w.machine).drive handler w = .ended (.ok ()) w')
    (level : Nat) (v : HostValue) (s : Session M BoundFunction (HostState δ)) :
    m.Stores handler level v s := by
  induction v using HostValue.induction generalizing level s with
  | array items ih =>
    intro _ array s₁ hs₁
    clear hs₁
    induction items generalizing s₁ with
    | nil => trivial
    | cons item rest ihrest =>
      obtain ⟨hitem, hrest⟩ := List.forall_mem_cons.mp ih
      exact ⟨hitem _ _, fun s₂ _ => ⟨fun ref v _ _ => happend ref v _, fun s₃ _ =>
        ihrest hrest s₃⟩⟩
  | map entries ih =>
    intro _ object s₁ hs₁
    clear hs₁
    induction entries generalizing s₁ with
    | nil => trivial
    | cons e rest ihrest =>
      obtain ⟨hitem, hrest⟩ := List.forall_mem_cons.mp ih
      obtain ⟨key, item⟩ := e
      cases key with
      | string name =>
        exact ⟨hitem.2 _ _, fun s₂ _ => ⟨fun ref v _ _ => hdefine ref _ v _, fun s₃ _ =>
          ihrest hrest s₃⟩⟩
      | _ => trivial
  | _ => trivial

/-- **The first offence is what is reported.**  A conversion in which the machine throws at no
append and at no definition of a property fails exactly if the value offends: it has a node that is
too deep, or one of a kind that has no script form, or a map with a key that is not a string.  The
error is that of the first offence in the value, of which there may be many, and it does not depend
on where in the value that is. -/
theorem push_refuses_first {M : Machine} {δ : Type}
    {handler : Handler M BoundFunction (HostState δ)}
    {broken : Payload → World M BoundFunction (HostState δ) → Prop} (T : Trust handler broken)
    (m : Marshaller) (v : HostValue) (s : Session M BoundFunction (HostState δ))
    (h : m.Stores handler 0 v s) :
    ((∃ s', m.push v handler s = .ok () s') ↔ ∀ o, ¬ m.Offends 0 v o) ∧
    ((∃ e s', m.push v handler s = .error e s') ↔ ∃ o, m.Offends 0 v o) ∧
    (∀ e s', m.push v handler s = .error e s' →
      ∃ o, (m.offences 0 v).head? = some o ∧ e = o.error m) ∧
    ∀ o, o ∈ m.offences 0 v ↔ m.Offends 0 v o := by
  have hnone : m.offences 0 v = [] ↔ ∀ o, ¬ m.Offends 0 v o := by
    simp only [List.eq_nil_iff_forall_not_mem, mem_offences_iff]
  rcases outcome_of_ends (push_ends T h) with ⟨_, s', hrun, hv⟩ | ⟨e, s', hrun, o, ho, rfl⟩
  · have hclean := hnone.mp hv
    refine ⟨by simp [hrun, hclean], ?_, by simp [hrun], fun _ => mem_offences_iff⟩
    simp [hrun, hclean]
  · have hoffends : m.Offends 0 v o := mem_offences_iff.mp (List.mem_of_mem_head? ho)
    refine ⟨?_, ?_, ?_, fun _ => mem_offences_iff⟩
    · simpa [hrun] using ⟨o, hoffends⟩
    · simpa [hrun] using ⟨o, hoffends⟩
    · intro e s'' h
      rw [hrun] at h
      cases h
      exact ⟨o, ho, rfl⟩

/-- A value of another type under a depth that is exceeded,
then a key that is none, then a stand-in. -/
theorem push_refuses_first_blank :
    let m : Marshaller := ⟨none, 1, 10⟩
    let v : HostValue :=
      .map [(.string "a", .array [.foreign "Opaque"]), (.null, .complexObject ⟨0⟩)]
    let handler : Handler Machine.blank BoundFunction (HostState Unit) := fun _ _ _ _ => .exhausted
    let s : Session Machine.blank BoundFunction (HostState Unit) :=
      ⟨⟨Machine.blank.fresh, #[], ⟨.fresh, ()⟩⟩, #[.null], none⟩
    m.Stores handler 0 v s ∧
    m.offences 0 v = [.tooDeep, .unsupported (.foreign "Opaque"), .unsupported .null,
      .unsupported (.complexObject ⟨0⟩)] ∧
    ∃ s', m.push v handler s =
      .error (.argumentType "value nesting exceeds maximum depth of 1") s' := by
  intro m v handler s
  have T : Trust handler fun _ _ => False :=
    Machine.trust Machine.keepsArrays_blank Machine.neverCrashes_blank fun _ _ _ _ => trivial
  have hstores : m.Stores handler 0 v s := stores_of_forall (fun _ _ w => ⟨w, rfl⟩)
    (fun _ _ _ w => ⟨w, rfl⟩) 0 v s
  have hlist : m.offences 0 v = [.tooDeep, .unsupported (.foreign "Opaque"), .unsupported .null,
    .unsupported (.complexObject ⟨0⟩)] := rfl
  obtain ⟨-, hfails, hfirst, hall⟩ := push_refuses_first T m v s hstores
  obtain ⟨e, s', hrun⟩ := hfails.mpr ⟨.tooDeep, (hall _).mp (by simp [hlist])⟩
  obtain ⟨o, ho, rfl⟩ := hfirst e s' hrun
  rw [hlist] at ho
  cases ho
  have herror : Offence.error m .tooDeep =
      .argumentType "value nesting exceeds maximum depth of 1" := by decide
  exact ⟨hstores, hlist, s', herror ▸ hrun⟩

end Marshaller

end ScriptHost
