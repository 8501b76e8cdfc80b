import ScriptHost.Proofs.Script.Filling

/-!
# Assigning

To assign to a property of an object is to search it and its prototypes first.  What is found there
may be a setter, and then that is called with the value, or it may be left to a proxy, or to a typed
array, which lets go of the value.  Otherwise it is settled without running any script whether the
object takes the value, and as what.

* `Heap.assigned?`: the property that the object gets; `Heap.Unwatched`: none of the others is met;
* `set_eq_some`, `set_eq_none`: **the value is stored, or refused by a type error**;
* `search_replaced`, `slot_of_assigned?`: the value is found there afterwards.
-/

namespace ScriptHost.Script

variable {s : State} {o : Object} {ref : Ref} {k : Key} {v : ScriptValue} {p : Property}

/-! ## What is assigned -/

/-- The property that the object gets under a key that is new to it, if it takes any. -/
def Object.added? (o : Object) (v : ScriptValue) : Option Property :=
  if o.extensible then some (.plain v) else none

namespace Heap

/-- The own property that an object gets by an assignment which runs no script; nothing if the
object refuses it.  An own property keeps its flags, and a new one is made only if an object that
inherits might have made it too. -/
def assigned? (h : Heap) (ref : Ref) (k : Key) (v : ScriptValue) : Option Property :=
  match h.search k ref with
  | .found ⟨.data _ true, enumerable, configurable⟩ =>
    match (h.lookUp ref).find? k with
    | some _ => some ⟨.data v true, enumerable, configurable⟩
    | none => (h.lookUp ref).added? v
  | .absent => (h.lookUp ref).added? v
  | _ => none

/-- The search for the key ends neither at a proxy nor at a typed array that has no such element,
and at no property with a setter. -/
structure Unwatched (h : Heap) (k : Key) (ref : Ref) : Prop where
  proxy : ∀ place, h.search k ref ≠ .proxy place
  outside : ∀ array element, h.search k ref ≠ .outside array element
  setter : ∀ getter place enumerable configurable,
    h.search k ref ≠ .found ⟨.accessor getter (some place), enumerable, configurable⟩

end Heap

theorem not_proxy_of_ordinary (hkind : o.kind = .ordinary) (ends : Option (Ref × Ref))
    (calls constructs : Bool) : o.kind ≠ .proxy ends calls constructs := by
  rw [hkind]
  exact Kind.noConfusion

theorem redefine?_value (w v : ScriptValue) (enumerable configurable : Bool) :
    Property.redefine? ⟨.data w true, enumerable, configurable⟩
        { Descriptor.blank with value := some v } =
      some ⟨.data v true, enumerable, configurable⟩ := by
  cases configurable <;> rfl

section

variable (hkind : (s.heap.lookUp ref).kind = .ordinary)
include hkind

theorem define?_of_ordinary (d : Descriptor) :
    (s.heap.lookUp ref).define? k d = (s.heap.lookUp ref).definePlain? k d := by
  simp only [Object.define?, hkind]

theorem storeWith_own {w : ScriptValue} {enumerable configurable : Bool}
    (hfind : (s.heap.lookUp ref).find? k = some ⟨.data w true, enumerable, configurable⟩)
    (v : ScriptValue) :
    Run.storeWith Run.proxyOps k v (.object ref) s =
      .done (s.replaced ref ((s.heap.lookUp ref).put k ⟨.data v true, enumerable, configurable⟩))
        (.ok true) := by
  have hown : Run.getOwnWith Run.proxyOps ref k s = .done s (.ok _) :=
    getOwn_of_not_proxy (not_proxy_of_ordinary hkind) k
  have hdefine : (s.heap.lookUp ref).define? k { Descriptor.blank with value := some v } =
      some ((s.heap.lookUp ref).put k ⟨.data v true, enumerable, configurable⟩) := by
    rw [define?_of_ordinary hkind, Object.definePlain?, hfind]
    dsimp only
    rw [redefine?_value, Option.map_some]
  simp only [Run.storeWith, bind, Run.bind, hown, hfind,
    define_of_define? (.of_ordinary hkind k) hdefine, State.replaced]

theorem storeWith_new (hfind : (s.heap.lookUp ref).find? k = none) (v : ScriptValue) :
    Run.storeWith Run.proxyOps k v (.object ref) s =
      match (s.heap.lookUp ref).added? v with
      | some p => .done (s.replaced ref ((s.heap.lookUp ref).put k p)) (.ok true)
      | none => .done s (.ok false) := by
  have hown : Run.getOwnWith Run.proxyOps ref k s = .done s (.ok _) :=
    getOwn_of_not_proxy (not_proxy_of_ordinary hkind) k
  have hdefine : (s.heap.lookUp ref).define? k (.ofProperty (.plain v)) =
      if (s.heap.lookUp ref).extensible then some
          ((s.heap.lookUp ref).put k (.plain v)) else none := by
    rw [define?_of_ordinary hkind, Object.definePlain?, hfind]
    rfl
  unfold Object.added?
  by_cases hextensible : (s.heap.lookUp ref).extensible = true
  · rw [if_pos hextensible] at hdefine ⊢
    simp only [Run.storeWith, bind, Run.bind, hown, hfind,
      define_of_define? (.of_ordinary hkind k) hdefine, State.replaced]
  · rw [if_neg hextensible] at hdefine ⊢
    simp only [Run.storeWith, bind, Run.bind, hown, hfind, define_refused
      (.of_ordinary hkind k) hdefine]

/-- **Nobody watches the key**, so the value is stored as `assigned?` says,
or nothing happens at all. -/
theorem setWith_of_unwatched (hunwatched : s.heap.Unwatched k ref) (v : ScriptValue) :
    Run.setWith Run.proxyOps ref k v (.object ref) s =
      match s.heap.assigned? ref k v with
      | some p => .done (s.replaced ref ((s.heap.lookUp ref).put k p)) (.ok true)
      | none => .done s (.ok false) := by
  simp only [Run.setWith, Run.read, bind, Run.bind]
  unfold Heap.assigned?
  cases hfind : (s.heap.lookUp ref).find? k with
  | some p =>
    rw [search_own (not_proxy_of_ordinary hkind) hfind]
    obtain ⟨slot, enumerable, configurable⟩ := p
    cases slot with
    | data w writable =>
      cases writable with
      | true => exact storeWith_own hkind hfind v
      | false => rfl
    | accessor getter setter =>
      cases setter with
      | none => rfl
      | some place =>
        exact absurd (search_own (not_proxy_of_ordinary hkind) hfind) (hunwatched.setter _ _ _ _)
  | none =>
    cases hsearch : s.heap.search k ref with
    | absent => exact storeWith_new hkind hfind v
    | proxy place => exact absurd hsearch (hunwatched.proxy place)
    | outside array element => exact absurd hsearch (hunwatched.outside array element)
    | found p =>
      obtain ⟨slot, enumerable, configurable⟩ := p
      cases slot with
      | data w writable =>
        cases writable with
        | true => exact storeWith_new hkind hfind v
        | false => rfl
      | accessor getter setter =>
        cases setter with
        | none => rfl
        | some place => exact absurd hsearch (hunwatched.setter _ _ _ _)

/-- **The value is stored.** -/
theorem set_eq_some (hunwatched : s.heap.Unwatched k ref) (hp : s.heap.assigned? ref k v = some p) :
    Run.set ref k v s = .done (s.replaced ref ((s.heap.lookUp ref).put k p)) (.ok ()) := by
  have hset := setWith_of_unwatched hkind hunwatched v
  rw [hp] at hset
  simp only [Run.set, bind, Run.bind, hset, Bool.not_true, Bool.false_eq_true,
    if_false, pure, Run.pure]

/-- **The value is refused**, and nothing has happened by then. -/
theorem set_eq_none (hunwatched : s.heap.Unwatched k ref)
    (hnone : s.heap.assigned? ref k v = none) :
    ∃ message, Run.set ref k v s = Run.throwTypeError message s := by
  have hset := setWith_of_unwatched hkind hunwatched v
  rw [hnone] at hset
  simp only [Run.set, bind, Run.bind, hset, Bool.not_false, if_true, Run.keyText, Run.read]
  exact ⟨_, rfl⟩

end

/-! ## Among more objects -/

section

variable (hin : ∀ last, s.heap.OnChain ref last → last < s.next) (new : List Object)
include hin

theorem lookUp_grown : (s.grown new).heap.lookUp ref = s.heap.lookUp ref :=
  State.lookUp_grown_of_lt (hin ref (.refl s.heap ref)) new

theorem assigned?_grown : (s.grown new).heap.assigned? ref k v = s.heap.assigned? ref k v := by
  unfold Heap.assigned?
  rw [search_grown hin, lookUp_grown hin]

theorem Heap.Unwatched.grown (h : s.heap.Unwatched k ref) : (s.grown new).heap.Unwatched k ref :=
  ⟨by rw [search_grown hin]; exact h.proxy, by rw [search_grown hin]; exact h.outside,
    by rw [search_grown hin]; exact h.setter⟩

end

/-! ## What there is afterwards -/

theorem search_replaced (hlt : ref < s.next) (hkind : o.kind = .ordinary) :
    (s.replaced ref (o.put k p)).heap.search k ref = .found p := by
  have hput : (o.put k p).kind = .ordinary := (o.kind_put k p).trans hkind
  refine search_own ?_ ?_
  · rw [lookUp_replaced hlt]
    exact not_proxy_of_ordinary hput
  · rw [lookUp_replaced hlt, Object.find?_put (by simp [hkind]), if_pos rfl]

/-- An assigned property holds the value. -/
theorem slot_of_assigned? {h : Heap} (hp : h.assigned? ref k v = some p) : p.slot =
    .data v true := by
  have hadded (hp : (h.lookUp ref).added? v = some p) : p.slot = .data v true := by
    unfold Object.added? at hp
    split at hp
    · cases hp
      rfl
    · cases hp
  unfold Heap.assigned? at hp
  split at hp
  · split at hp
    · cases hp
      rfl
    · exact hadded hp
  · exact hadded hp
  · cases hp

end ScriptHost.Script
