import ScriptHost.Crossing.Push
import ScriptHost.Proofs.Crossing.Image
import ScriptHost.Proofs.Crossing.Thrown
import ScriptHost.Proofs.Machine.Store
import ScriptHost.Proofs.Stack.Data

/-!
# Writing data

On a machine that stores data, a host value is written exactly if it is `Portable` and nests within
the bound, and what is on top then is its image among the objects that have been added
(`Marshaller.push_succeedsIff`).

* what writing keeps: `Marshaller.Writes`, `Marshaller.Container`;
* containers: `pushItems_succeedsIff`, `pushEntries_succeedsIff`, and `Overwrites` for the members;
* the recursion: `Writable`, `writable`.
-/

namespace ScriptHost

open Stack Stacked Crossing HostValue

variable {M : Machine} {δ ε α : Type} {handler : Handler M BoundFunction (HostState δ)}
  {s s₁ s₂ : Session M BoundFunction (HostState δ)} {a b : Array ScriptValue}

namespace Marshaller

variable {m : Marshaller} {D : DataStore M} {keep : Ref → Prop}

/-! ## What a writing keeps -/

/-- From `s` to `s'` the slots have become `slots`, and of the machine only objects that do not
satisfy `keep` have changed. -/
structure Writes (D : DataView M) (keep : Ref → Prop) (s : Session M BoundFunction (HostState δ))
    (slots : Array ScriptValue) (s' : Session M BoundFunction (HostState δ)) : Prop where
  slots : s'.slots = slots
  poison : s'.poison = none
  host : s'.world.host = s.world.host
  grows : D.Grows keep s.world.machine s'.world.machine

theorem Writes.trans (h : Writes D.toDataView keep s a s₁) (h' : Writes D.toDataView keep s₁ b s₂) :
    Writes D.toDataView keep s b s₂ :=
  ⟨h'.slots, h'.poison, h'.host.trans h.host, h.grows.trans h'.grows⟩

/-- What has been added between two sessions. -/
def added (D : DataView M) (s s' : Session M BoundFunction (HostState δ)) : DataHeap :=
  D.since s.world.machine s'.world.machine

/-- An image of the value is on top. -/
def Pushes (D : DataView M) (v : HostValue) (s s' : Session M BoundFunction (HostState δ)) : Prop :=
  ∃ x, Writes D (fun _ => True) s (s.slots.push x) s' ∧ ImageOf (added D s s') v x

/-- The slot holds the object `ref`, which holds `o` and takes more. -/
structure Container (D : DataView M) (slot : Nat) (ref : Ref) (o : DataObject)
    (s : Session M BoundFunction (HostState δ)) : Prop where
  slot : s.slots[slot]? = some (.object ref)
  here : D.heap s.world.machine ref = some o
  extensible : D.extensible s.world.machine ref

section

variable {slot : Nat} {ref : Ref} {o : DataObject} {x : ScriptValue} {t : M.State}

theorem Container.below (h : Container D.toDataView slot ref o s)
    (hw : Writes D.toDataView (fun _ => True) s (s.slots.push x) s₁) :
    Container D.toDataView slot ref o s₁ where
  slot := by
    obtain ⟨hi, hslot⟩ := Array.getElem?_eq_some_iff.mp h.slot
    rw [hw.slots, Array.getElem?_push_lt hi, hslot]
  here := hw.grows.heap trivial h.here
  extensible := hw.grows.extensible trivial h.here h.extensible

theorem Writes.sets (hw : Writes D.toDataView (fun _ => True) s (s.slots.push x) s₁)
    (hsets : D.Sets ref o s₁.world.machine t) :
    Writes D.toDataView (fun other => other ≠ ref) s s.slots
      { s₁ with slots := s.slots, world := { s₁.world with machine := t } } :=
  ⟨rfl, hw.poison, hw.host, (hw.grows.weaken fun _ _ => trivial).trans hsets.toGrows⟩

theorem Container.sets {o' : DataObject} (h : Container D.toDataView slot ref o s)
    (hw : Writes D.toDataView (fun other => other ≠ ref) s s.slots s₁)
    (hsets : D.Sets ref o' s₂.world.machine s₁.world.machine) :
    Container D.toDataView slot ref o' s₁ :=
  ⟨hw.slots ▸ h.slot, hsets.here, hsets.extensible_here⟩

end

/-! ## Elements -/

variable (m) in
/-- The value is written at every level at which it fits, if it has a script form; otherwise it is
not written. -/
def Writable (handler : Handler M BoundFunction (HostState δ)) (D : DataView M) (v : HostValue) :
    Prop :=
  ∀ (level : Nat) (s : Session M BoundFunction (HostState δ)), s.poison = none →
    D.tame s.world.machine → (m.pushValue level v).succeedsIff handler
      (v.Portable ∧ level + v.depth ≤ m.maxDepth) (fun _ => Pushes D v s) s

section

variable {array object level : Nat} {ref : Ref} {x : ScriptValue}

/-- The top is appended to an array. -/
theorem appended_succeedsIff {done : List ScriptValue}
    (hw : Writes D.toDataView (fun _ => True) s (s.slots.push x) s₁)
    (hc : Container D.toDataView array ref (.array (done.map some)) s) :
    (check (append array) : Crossing M δ Error Unit).succeedsIff handler
      (done.length < Script.indexLimit)
      (fun _ s₂ => Writes D.toDataView (fun other => other ≠ ref) s s.slots s₂ ∧
        D.Sets ref (.array ((done ++ [x]).map some)) s₁.world.machine s₂.world.machine) s₁ := by
  have hc₁ := hc.below hw
  have hshape : M.shape s₁.world.machine ref = .array :=
    (D.shows hw.grows.tame ref _ hc₁.here).shape
  refine check_succeedsIff (append_succeedsIff hw.slots hc₁.slot hshape ?_)
  by_cases hlt : done.length < Script.indexLimit
  · obtain ⟨t, happend, hsets⟩ :=
      D.append x hw.grows.tame hc₁.here hc₁.extensible (by simpa using hlt)
    rw [← List.map_singleton, ← List.map_append] at hsets
    exact succeedsIff_of_ends (perform_ends happend ⟨hw.sets hsets, hsets⟩) hlt
  · obtain ⟨t, failure, hfull⟩ :=
      D.append_full x hw.grows.tame hc₁.here hc₁.extensible (by simpa using hlt)
    exact perform_succeedsIff_of_error hfull hlt

theorem added_of_grows {o q : DataObject} {r : Ref}
    (ho : D.heap s.world.machine ref = some o)
    (hgrows : D.Grows (fun other => other ≠ ref) s₁.world.machine s₂.world.machine)
    (hq : added D.toDataView s s₁ r = some q) : added D.toDataView s s₂ r = some q := by
  refine hgrows.since (fun r hr heq => ?_) r q hq
  rw [heq, ho] at hr
  cases hr

/-- Items fit if the first one does, there is room for it, and the others fit behind it. -/
theorem fits_cons_items_iff {item : HostValue} {rest : List HostValue} {limit count : Nat} :
    ((item.Portable ∧ level + 1 + item.depth ≤ limit) ∧ count < Script.indexLimit ∧
      AllPortable rest ∧ level + itemDepth rest ≤ limit ∧
        count + 1 + rest.length ≤ Script.indexLimit) ↔
    AllPortable (item :: rest) ∧ level + itemDepth (item :: rest) ≤ limit ∧
      count + (item :: rest).length ≤ Script.indexLimit := by
  simp only [AllPortable, itemDepth, List.length_cons]
  constructor
  · rintro ⟨⟨hitem, hdepth⟩, hroom, hrest, hdepths, hlength⟩
    exact ⟨⟨hitem, hrest⟩, by omega, by omega⟩
  · rintro ⟨⟨hitem, hrest⟩, hdepth, hlength⟩
    exact ⟨⟨hitem, by omega⟩, by omega, hrest, by omega, by omega⟩

theorem pushItems_succeedsIff {items : List HostValue}
    (hitems : ∀ item ∈ items, m.Writable handler D.toDataView item) {done : List ScriptValue}
    (hp : s.poison = none) (ht : D.tame s.world.machine)
    (hc : Container D.toDataView array ref (.array (done.map some)) s) (hlevel : level ≤ m.maxDepth)
    (hdone : done.length ≤ Script.indexLimit) :
    (m.pushItems level array items).succeedsIff handler
      (AllPortable items ∧ level + itemDepth items ≤ m.maxDepth ∧
        done.length + items.length ≤ Script.indexLimit)
      (fun _ s' => ∃ xs, Writes D.toDataView (fun other => other ≠ ref) s s.slots s' ∧
        D.heap s'.world.machine ref = some (.array ((done ++ xs).map some)) ∧
        ImagesOf (added D.toDataView s s') items xs) s := by
  induction items generalizing done s with
  | nil =>
    refine succeedsIff_of_ends ⟨[], ⟨rfl, hp, rfl, .refl ht⟩, ?_, .nil⟩ ⟨trivial, hlevel, hdone⟩
    rw [List.append_nil]
    exact hc.here
  | cons item rest ih =>
    rw [pushItems]
    have hitem := hitems item List.mem_cons_self (level + 1) s hp ht
    refine succeedsIff_congr (succeedsIff_bind hitem ?_) fits_cons_items_iff
    rintro - _ s₁ ⟨x, hw, himage⟩
    refine succeedsIff_bind (appended_succeedsIff hw hc) ?_
    rintro hlt _ s₂ ⟨hw₂, hsets⟩
    have hlength : (done ++ [x]).length = done.length + 1 := List.length_append
    have hrest := ih (fun v hv => hitems v (List.mem_cons_of_mem _ hv)) hw₂.poison hw₂.grows.tame
      (hc.sets hw₂ hsets) (hlength ▸ hlt)
    rw [hlength] at hrest
    refine succeedsIff_mono hrest ?_
    rintro _ s₃ ⟨xs, hw₃, ho₃, himages⟩
    rw [List.append_assoc] at ho₃
    refine ⟨x :: xs, hw₂.slots ▸ hw₂.trans hw₃, ho₃, .cons (himage.mono ?_) (himages.mono ?_)⟩
    · exact fun _ _ => added_of_grows hc.here (hsets.toGrows.trans hw₃.grows)
    · exact D.since_of_since (hw₂.grows.eq_none_of_sets hsets.here)

/-! ## Members -/

/-- One of the entries has this key. -/
def named (entries : List (HostValue × HostValue)) (key : Units) : Bool :=
  entries.any fun e => e.1.asString?.map Text.units == some key

theorem named_cons (name : String) (v : HostValue) (rest : List (HostValue × HostValue))
    (key : Units) :
    named ((.string name, v) :: rest) key = (Text.units name == key || named rest key) := rfl

theorem isRepeated_eq_named (name : String) (rest : List (HostValue × HostValue)) :
    isRepeated (.string name) rest = named rest (Text.units name) := by
  unfold isRepeated named
  refine List.any_congr rfl fun e => ?_
  cases e.1.asString? with
  | none => rfl
  | some other =>
    rw [Bool.eq_iff_iff, beq_iff_eq, beq_iff_eq]
    simp [asString?, Text.units_inj]

/-- From `members` one comes to `members'` by writing the entries: the images of the latest ones
have been added, in whatever order, and the members with their keys are gone. -/
def Overwrites (heap : DataHeap) (entries : List (HostValue × HostValue))
    (members members' : List Member) : Prop :=
  ∃ images, List.Forall₂ (EntryImage heap) (latest entries) images ∧
    members'.Perm (images ++ members.filter fun p => !named entries p.key)

theorem Overwrites.nil {heap : DataHeap} (members : List Member) :
    Overwrites heap [] members members :=
  ⟨[], .nil, by simp [named]⟩

theorem Overwrites.cons {heap : DataHeap} {entries : List (HostValue × HostValue)} {name : String}
    {v : HostValue} {x : ScriptValue} {members members' members'' : List Member}
    (hx : ImageOf heap v x)
    (hperm : members'.Perm
      (⟨Text.units name, x, true⟩ :: members.filter fun p => p.key ≠ Text.units name))
    (h : Overwrites heap entries members' members'') :
    Overwrites heap ((.string name, v) :: entries) members members'' := by
  obtain ⟨images, himages, hperm'⟩ := h
  have hkept := hperm.filter fun p => !named entries p.key
  have hfilter : (members.filter fun p => p.key ≠ Text.units name).filter
      (fun p => !named entries p.key) =
        members.filter fun p => !named ((.string name, v) :: entries) p.key := by
    rw [List.filter_filter]
    refine List.filter_congr fun p _ => ?_
    have hkey : (Text.units name == p.key) = decide (p.key = Text.units name) := by
      rw [Bool.eq_iff_iff, beq_iff_eq, decide_eq_true_iff, eq_comm]
    rw [named_cons, hkey]
    cases named entries p.key <;> simp
  rw [Overwrites, latest, isRepeated_eq_named]
  split
  · next hnamed =>
    rw [List.filter_cons_of_neg (by simp [hnamed]), hfilter] at hkept
    exact ⟨images, himages, hperm'.trans (hkept.append_left images)⟩
  · next hnamed =>
    rw [List.filter_cons_of_pos (by simp [hnamed]), hfilter] at hkept
    refine ⟨⟨Text.units name, x, true⟩ :: images, .cons ⟨rfl, ⟨name, rfl, rfl⟩, hx⟩ himages, ?_⟩
    exact hperm'.trans ((hkept.append_left images).trans List.perm_middle)

theorem Overwrites.mono {heap heap' : DataHeap} {entries : List (HostValue × HostValue)}
    {members members' : List Member} (h : Overwrites heap entries members members')
    (hmono : ∀ ref o, heap ref = some o → heap' ref = some o) :
    Overwrites heap' entries members members' := by
  obtain ⟨images, himages, hperm⟩ := h
  exact ⟨images, himages.imp fun _ _ h => h.mono hmono, hperm⟩

theorem defined_ends {members : List Member} {name : String}
    (hw : Writes D.toDataView (fun _ => True) s (s.slots.push x) s₁)
    (hc : Container D.toDataView object ref (.plain members) s) :
    (check (putProp object (Text.utf8 name)) : Crossing M δ Error Unit).ends handler
      (fun _ s₂ => Writes D.toDataView (fun other => other ≠ ref) s s.slots s₂ ∧
        ∃ members' : List Member, members'.Perm
          (⟨Text.units name, x, true⟩ :: members.filter fun p => p.key ≠ Text.units name) ∧
        D.Sets ref (.plain members') s₁.world.machine s₂.world.machine) (fun _ _ => False) s₁ := by
  have hc₁ := hc.below hw
  obtain ⟨t, members', hdefine, hperm, hsets⟩ :=
    D.define (Text.units name) x hw.grows.tame hc₁.here hc₁.extensible
  exact check_ends (putProp_ends hw.slots hc₁.slot hdefine ⟨hw.sets hsets, members', hperm, hsets⟩)

/-- Entries fit if the value of the first one does, and the others fit behind it. -/
theorem fits_cons_entries_iff {name : String} {item : HostValue}
    {rest : List (HostValue × HostValue)} {limit : Nat} :
    ((item.Portable ∧ level + 1 + item.depth ≤ limit) ∧ PortableEntries rest ∧
      level + entryDepth rest ≤ limit) ↔
    PortableEntries ((.string name, item) :: rest) ∧
      level + entryDepth ((.string name, item) :: rest) ≤ limit := by
  simp only [PortableEntries, entryDepth]
  constructor
  · rintro ⟨⟨hitem, hdepth⟩, hrest, hdepths⟩
    exact ⟨⟨⟨name, rfl⟩, hitem, hrest⟩, by omega⟩
  · rintro ⟨⟨-, hitem, hrest⟩, hdepth⟩
    exact ⟨⟨hitem, by omega⟩, hrest, by omega⟩

theorem pushEntries_succeedsIff {entries : List (HostValue × HostValue)}
    (hentries : ∀ e ∈ entries, m.Writable handler D.toDataView e.2) {members : List Member}
    (hp : s.poison = none) (ht : D.tame s.world.machine)
    (hc : Container D.toDataView object ref (.plain members) s) (hlevel : level ≤ m.maxDepth) :
    (m.pushEntries level object entries).succeedsIff handler
      (PortableEntries entries ∧ level + entryDepth entries ≤ m.maxDepth)
      (fun _ s' => ∃ members', Writes D.toDataView (fun other => other ≠ ref) s s.slots s' ∧
        D.heap s'.world.machine ref = some (.plain members') ∧
        Overwrites (added D.toDataView s s') entries members members') s := by
  induction entries generalizing members s with
  | nil =>
    exact succeedsIff_of_ends ⟨members, ⟨rfl, hp, rfl, .refl ht⟩, hc.here, .nil members⟩
      ⟨trivial, hlevel⟩
  | cons e rest ih =>
    obtain ⟨key, item⟩ := e
    cases key with
    | string name =>
      rw [pushEntries]
      have hitem := hentries _ List.mem_cons_self (level + 1) s hp ht
      refine succeedsIff_congr (succeedsIff_bind hitem ?_) fits_cons_entries_iff
      rintro - _ s₁ ⟨x, hw, himage⟩
      refine succeedsIff_next (defined_ends hw hc) ?_
      rintro _ s₂ ⟨hw₂, members', hperm, hsets⟩
      have hrest := ih (fun e he => hentries e (List.mem_cons_of_mem _ he)) hw₂.poison
        hw₂.grows.tame (hc.sets hw₂ hsets)
      refine succeedsIff_mono hrest ?_
      rintro _ s₃ ⟨members'', hw₃, ho₃, himages⟩
      refine ⟨members'', hw₂.slots ▸ hw₂.trans hw₃, ho₃,
        .cons (himage.mono ?_) hperm (himages.mono ?_)⟩
      · exact fun _ _ => added_of_grows hc.here (hsets.toGrows.trans hw₃.grows)
      · exact D.since_of_since (hw₂.grows.eq_none_of_sets hsets.here)
    | _ =>
      refine succeedsIff_of_fails (fails_fail _) ?_
      rintro ⟨⟨⟨name, hname⟩, -⟩, -⟩
      cases hname

end

/-! ## The recursion -/

/-- The slot on top holds the object `ref`, which is new and holds `o`. -/
structure Opens (D : DataView M) (ref : Ref) (o : DataObject)
    (s : Session M BoundFunction (HostState δ)) (slot : Nat)
    (s' : Session M BoundFunction (HostState δ)) : Prop where
  writes : Writes D (fun _ => True) s (s.slots.push (.object ref)) s'
  container : Container D slot ref o s'
  new : D.heap s.world.machine ref = none

section

variable {ref : Ref} {slot : Nat} {o o' : DataObject} {t : M.State} {v : HostValue}

theorem opens_of_adds (hp : s.poison = none) (h : D.Adds ref o s.world.machine t) :
    Opens D.toDataView ref o s s.slots.size
      { s with slots := s.slots.push (.object ref), world := { s.world with machine := t } } :=
  ⟨⟨rfl, hp, rfl, h.grows⟩, ⟨Array.getElem?_push_size, h.here, h.extensible_here⟩, h.new⟩

theorem Opens.pushes (h : Opens D.toDataView ref o s slot s₁)
    (hw : Writes D.toDataView (fun other => other ≠ ref) s₁ s₁.slots s₂)
    (ho : D.heap s₂.world.machine ref = some o')
    (himage : added D.toDataView s s₂ ref = some o' →
      (∀ r q, added D.toDataView s₁ s₂ r = some q → added D.toDataView s s₂ r = some q) →
      ImageOf (added D.toDataView s s₂) v (.object ref)) : Pushes D.toDataView v s s₂ := by
  refine ⟨.object ref, ⟨?_, hw.poison, hw.host.trans h.writes.host,
    h.writes.grows.around h.new hw.grows⟩, himage (D.since_eq_some_iff.mpr ⟨h.new, ho⟩) ?_⟩
  · rw [hw.slots, h.writes.slots]
  · exact D.since_of_since h.writes.grows.eq_none

end

theorem pushValue_of_lt {level : Nat} (h : m.maxDepth < level) (v : HostValue) :
    (m.pushValue level v : Crossing M δ Error Unit) =
      .fail (.argumentType (tooDeep m.maxDepth)) := by
  cases v <;> simp [pushValue, h]

theorem writable_of_fits {v : HostValue}
    (h : ∀ (level : Nat) (s : Session M BoundFunction (HostState δ)), s.poison = none →
      D.tame s.world.machine → level ≤ m.maxDepth → (m.pushValue level v).succeedsIff handler
        (v.Portable ∧ level + v.depth ≤ m.maxDepth) (fun _ => Pushes D.toDataView v s) s) :
    m.Writable handler D.toDataView v := by
  intro level s hp ht
  by_cases hlevel : level ≤ m.maxDepth
  · exact h level s hp ht hlevel
  · rw [pushValue_of_lt (Nat.lt_of_not_le hlevel)]
    exact succeedsIff_of_fails (fails_fail _) fun hfits => by omega

theorem writable_array {items : List HostValue}
    (hitems : ∀ item ∈ items, m.Writable handler D.toDataView item) :
    m.Writable handler D.toDataView (.array items) := by
  refine writable_of_fits fun level s hp ht hlevel => ?_
  rw [pushValue, if_neg (Nat.not_lt_of_le hlevel)]
  have hopens : (pushArray : Crossing M δ Error Nat).ends handler
      (Opens D.toDataView (M.newArray s.world.machine).1 (.array []) s) (fun _ _ => False) s :=
    opens_of_adds hp (D.newArray ht)
  refine succeedsIff_next hopens fun slot s₁ h => ?_
  have hcontainer : Container D.toDataView slot (M.newArray s.world.machine).1
      (.array (([] : List ScriptValue).map some)) s₁ := h.container
  have hfilled := pushItems_succeedsIff hitems h.writes.poison h.writes.grows.tame hcontainer hlevel
    (Nat.zero_le _)
  have haccepted : (AllPortable items ∧ level + itemDepth items ≤ m.maxDepth ∧
      0 + items.length ≤ Script.indexLimit) ↔
      Portable (.array items) ∧ level + HostValue.depth (.array items) ≤ m.maxDepth := by
    rw [Nat.zero_add, Portable, HostValue.depth]
    constructor
    · rintro ⟨h₁, h₂, h₃⟩
      exact ⟨⟨h₃, h₁⟩, h₂⟩
    · rintro ⟨⟨h₃, h₁⟩, h₂⟩
      exact ⟨h₁, h₂, h₃⟩
  refine succeedsIff_congr (succeedsIff_mono hfilled ?_) haccepted
  rintro _ s₂ ⟨xs, hw, ho, himages⟩
  exact h.pushes hw ho fun ho hmono => imageOf_array ho (himages.mono hmono)

theorem writable_map {entries : List (HostValue × HostValue)}
    (hentries : ∀ e ∈ entries, m.Writable handler D.toDataView e.2) :
    m.Writable handler D.toDataView (.map entries) := by
  refine writable_of_fits fun level s hp ht hlevel => ?_
  rw [pushValue, if_neg (Nat.not_lt_of_le hlevel)]
  have hopens : (pushObject : Crossing M δ Error Nat).ends handler
      (Opens D.toDataView (M.newObject s.world.machine).1 (.plain []) s) (fun _ _ => False) s :=
    opens_of_adds hp (D.newObject ht)
  refine succeedsIff_next hopens fun slot s₁ h => ?_
  have hfilled := pushEntries_succeedsIff hentries h.writes.poison h.writes.grows.tame
    h.container hlevel
  refine succeedsIff_mono hfilled ?_
  rintro _ s₂ ⟨members, hw, ho, himages⟩
  refine h.pushes hw ho fun ho hmono => ?_
  obtain ⟨images, himages, hperm⟩ := himages.mono hmono
  rw [List.filter_nil, List.append_nil] at hperm
  exact imageOf_map ho hperm himages

theorem writable_callable (f : CallableId) : m.Writable handler D.toDataView (.callable f) := by
  refine writable_of_fits fun level s hp ht hlevel => ?_
  rw [pushValue, if_neg (Nat.not_lt_of_le hlevel)]
  have hadds := D.newNative (Text.units "") ⟨s.world.natives.size⟩ ht
  refine succeedsIff_of_ends ⟨.object _, ⟨rfl, hp, rfl, hadds.grows⟩, ?_⟩ ⟨trivial, hlevel⟩
  have ho := D.since_eq_some_iff.mpr ⟨hadds.new, hadds.here⟩
  exact ⟨⟨.formless, .function ho, fun standIn => .refl standIn, rfl, Nat.le_refl _, trivial⟩,
    by simp [isFunction, added, ho, isCallable]⟩

theorem writable_leaf {v : HostValue} {x : ScriptValue} {t : Tree}
    (hpush : ∀ level, ¬ m.maxDepth < level → (m.pushValue level v : Crossing M δ Error Unit) =
      Stack.pushValue x)
    (hunfolds : ∀ heap, Unfolds heap x t) (hmirrors : Mirrors v t)
    (hfunction : ∀ heap, isFunction heap x = v.isCallable) (hportable : v.Portable)
    (hdepth : v.depth = 0) : m.Writable handler D.toDataView v := by
  refine writable_of_fits fun level s hp ht hlevel => ?_
  rw [hpush level (Nat.not_lt_of_le hlevel)]
  exact succeedsIff_of_ends
    ⟨x, ⟨rfl, hp, rfl, .refl ht⟩, ⟨t, hunfolds _, hmirrors⟩, hfunction _⟩
    ⟨hportable, by rwa [hdepth]⟩

theorem writable_unsupported {v : HostValue} (hportable : ¬ v.Portable)
    (hpush : ∀ level, ¬ m.maxDepth < level → (m.pushValue level v : Crossing M δ Error Unit) =
      .fail (unsupported v)) : m.Writable handler D.toDataView v := by
  refine writable_of_fits fun level s hp ht hlevel => ?_
  rw [hpush level (Nat.not_lt_of_le hlevel)]
  exact succeedsIff_of_fails (fails_fail _) fun h => hportable h.1

mutual

/-- **Every value is written, if it can be.** -/
theorem writable (v : HostValue) : m.Writable handler D.toDataView v := by
  match v with
  | .null =>
    exact writable_leaf (x := .null) (fun _ h => by rw [pushValue, if_neg h, pushNull])
      (fun _ => .null) ⟨fun _ => .refl _, rfl, Nat.le_refl _, trivial⟩ (fun _ => rfl) trivial rfl
  | .boolean b =>
    exact writable_leaf (x := .boolean b) (fun _ h => by rw [pushValue, if_neg h, pushBoolean])
      (fun _ => .boolean b) ⟨fun _ => .refl _, rfl, Nat.le_refl _, trivial⟩
      (fun _ => rfl) trivial rfl
  | .number x =>
    exact writable_leaf (x := .number x) (fun _ h => by rw [pushValue, if_neg h, pushNumber])
      (fun _ => .number x) ⟨fun _ => .refl _, rfl, Nat.le_refl _, trivial⟩
      (fun _ => rfl) trivial rfl
  | .string text =>
    refine writable_leaf (x := .string (Text.units text)) (fun level h => ?_)
      (fun _ => .string (Text.units text))
      ⟨fun standIn => ?_, rfl, Nat.le_refl _, Text.paired_units text⟩ (fun _ => rfl) trivial rfl
    · rw [pushValue, if_neg h, pushString, Text.decodeUnits_utf8]
    · rw [Tree.host, Text.pairUnitsLossy_units]
      exact .refl _
  | .array items => exact writable_array (writable_items items)
  | .map entries => exact writable_map (writable_entries entries)
  | .callable f => exact writable_callable f
  | .complexObject sentinel =>
    exact writable_unsupported id fun level h => by simp [pushValue, h]
  | .foreign name =>
    exact writable_unsupported id fun level h => by simp [pushValue, h]

theorem writable_items (items : List HostValue) :
    ∀ item ∈ items, m.Writable handler D.toDataView item := by
  match items with
  | [] => exact fun _ h => nomatch h
  | item :: rest => exact List.forall_mem_cons.mpr ⟨writable item, writable_items rest⟩

theorem writable_entries (entries : List (HostValue × HostValue)) :
    ∀ e ∈ entries, m.Writable handler D.toDataView e.2 := by
  match entries with
  | [] => exact fun _ h => nomatch h
  | (key, item) :: rest => exact List.forall_mem_cons.mpr ⟨writable item, writable_entries rest⟩

end

/-- **Writing.**  A value is written exactly if it has a script form and is not too deep; an image
of it is on top then, made of objects that there were not before. -/
theorem push_succeedsIff (handler : Handler M BoundFunction (HostState δ)) (v : HostValue)
    (hp : s.poison = none) (ht : D.tame s.world.machine) :
    (m.push v).succeedsIff handler (v.Portable ∧ v.depth ≤ m.maxDepth)
      (fun _ => Pushes D.toDataView v s) s := by
  have hvalue : (m.pushValue 0 v).succeedsIff handler
      (v.Portable ∧ 0 + v.depth ≤ m.maxDepth) (fun _ => Pushes D.toDataView v s) s :=
    writable v 0 s hp ht
  rw [Nat.zero_add] at hvalue
  have hbase : (depth : Crossing M δ Error Nat).ends handler (fun _ s₁ => s = s₁)
      (fun _ _ => False) s := rfl
  refine succeedsIff_next hbase ?_
  rintro base _ rfl
  exact succeedsIff_attempt hvalue (fun _ _ h => h) fun e => fails_bind fun _ => fails_fail e

end Marshaller

end ScriptHost
