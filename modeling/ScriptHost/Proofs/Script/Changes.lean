import ScriptHost.Proofs.Machine.Prototypes

/-!
# Changes to the store

The store of the script machine changes in two ways: it gets new objects behind those that there
are, and one object takes the place of another.  Neither touches any other object, so a search for a
property comes to what it came to, unless it meets the object that has changed.

* `State.grown`, `State.next`: a state with new objects, and the place of the first of them;
* `State.replaced`: a state with another object at a place;
* `search_grown`, `search_next`, `search_replaced_of_alike`: **what a search comes to afterwards.**
-/

namespace ScriptHost.Script

variable {s : State} {o : Object} {rest : List Object} {ref other : Ref} {k : Key}

/-! ## New objects -/

/-- The state with new objects. -/
def State.grown (s : State) (new : List Object) : State :=
  { s with heap := ⟨s.heap.objects ++ new.toArray⟩ }

/-- The place that the next object gets. -/
def State.next (s : State) : Nat := s.heap.objects.size

namespace State

theorem grown_nil (s : State) : s.grown [] = s := by simp [grown]

theorem grown_grown (s : State) (new more : List Object) :
    (s.grown new).grown more = s.grown (new ++ more) := by simp [grown]

theorem next_grown (s : State) (new : List Object) : (s.grown new).next = s.next + new.length := by
  simp [grown, next]

theorem next_le_grown (s : State) (new : List Object) : s.next ≤ (s.grown new).next := by
  rw [next_grown]
  exact Nat.le_add_right ..

theorem store_eq (s : State) (o : Object) : store o s = (s.next, s.grown [o]) := by
  simp [store, Heap.allocate, grown, next]

theorem lookUp_grown_of_lt (hlt : ref < s.next) (new : List Object) :
    (s.grown new).heap.lookUp ref = s.heap.lookUp ref := by
  simp [grown, Heap.lookUp, Array.getD_eq_getD_getElem?, Array.getElem?_append_left hlt]

theorem lookUp_next (s : State) (o : Object) (rest : List Object) :
    (s.grown (o :: rest)).heap.lookUp s.next = o := by
  simp [grown, next, Heap.lookUp, Array.getD_eq_getD_getElem?]

theorem replace_next (s : State) (o o' : Object) (rest : List Object) :
    { s.grown (o :: rest) with heap := (s.grown (o :: rest)).heap.replace s.next o' } =
      s.grown (o' :: rest) := by
  simp [grown, next, Heap.replace, Array.setIfInBounds_append_right]

end State

/-! ## Another object -/

/-- The state with another object at a place. -/
def State.replaced (s : State) (ref : Ref) (o : Object) : State :=
  { s with heap := s.heap.replace ref o }

theorem State.replaced_self (s : State) (ref : Ref) : s.replaced ref (s.heap.lookUp ref) = s := by
  have hsame : s.heap.objects.setIfInBounds ref (s.heap.lookUp ref) = s.heap.objects := by
    by_cases hlt : ref < s.heap.objects.size
    · simp [Heap.lookUp, Array.setIfInBounds, Array.getD, hlt]
    · exact Array.setIfInBounds_eq_of_size_le (Nat.le_of_not_lt hlt)
  rw [State.replaced, Heap.replace, hsame]

/-- What is no ordinary object is there. -/
theorem lt_next_of_kind (h : (s.heap.lookUp ref).kind ≠ .ordinary) : ref < s.next := by
  by_contra hout
  have habsent : s.heap.lookUp ref = default := by
    simp [Heap.lookUp, Array.getD_eq_getD_getElem?, Array.getElem?_eq_none (Nat.le_of_not_lt hout)]
  rw [habsent] at h
  exact h rfl

theorem lookUp_replaced (hlt : ref < s.next) (o : Object) :
    (s.replaced ref o).heap.lookUp ref = o := by
  have hlt : ref < s.heap.objects.size := hlt
  simp [State.replaced, Heap.replace, Heap.lookUp, Array.getD_eq_getD_getElem?, hlt]

theorem lookUp_replaced_of_ne (hne : other ≠ ref) (o : Object) :
    (s.replaced ref o).heap.lookUp other = s.heap.lookUp other := by
  simp [State.replaced, Heap.replace, Heap.lookUp, Array.getD_eq_getD_getElem?,
    Array.getElem?_setIfInBounds_ne (Ne.symm hne)]

theorem next_replaced (s : State) (ref : Ref) (o : Object) : (s.replaced ref o).next = s.next := by
  simp [State.replaced, Heap.replace, State.next]

theorem lookUp_replaced_congr {β : Type} (part : Object → β) (hlt : ref < s.next)
    (ho : part o = part (s.heap.lookUp ref)) (other : Ref) :
    part ((s.replaced ref o).heap.lookUp other) = part (s.heap.lookUp other) := by
  by_cases hother : other = ref
  · subst hother
    rw [lookUp_replaced hlt, ho]
  · rw [lookUp_replaced_of_ne hother]

/-! ## Searching -/

/-- What is in the store stays there. -/
theorem inside_grown (hin : ∀ last, s.heap.OnChain ref last → last < s.next) (new : List Object)
    (last : Ref) (hchain : (s.grown new).heap.OnChain ref last) : last < (s.grown new).next := by
  have hchain := (Heap.onChain_congr fun last hchain => congrArg Object.proto
    (State.lookUp_grown_of_lt (hin last hchain) new)).mp hchain
  exact Nat.lt_of_lt_of_le (hin last hchain) (s.next_le_grown new)

theorem search_grown (hin : ∀ last, s.heap.OnChain ref last → last < s.next) (new : List Object) :
    (s.grown new).heap.search k ref = s.heap.search k ref := by
  rw [Heap.search, Heap.searchFrom_congr fun last hchain =>
    .of_eq (State.lookUp_grown_of_lt (hin last hchain) new)]
  exact Heap.searchFrom_eq_search (Nat.lt_succ_of_le (s.next_le_grown new))

/-- What a new object does not have is looked for where it was looked for before
there was the object. -/
theorem search_next {proto : Ref} (hin : ∀ last, s.heap.OnChain proto last → last < s.next)
    (hproxy : ∀ ends calls constructs, o.kind ≠ .proxy ends calls constructs)
    (hopen : o.closes? k = none) (hproto : o.proto = some proto) (hfind : o.find? k = none) :
    (s.grown (o :: rest)).heap.search k s.next = s.heap.search k proto := by
  have hnew := s.lookUp_next o rest
  have hgoes : ¬ (s.grown (o :: rest)).heap.Stops k s.next := by
    rw [Heap.Stops, hnew, hfind, hopen]
    rintro (⟨ends, calls, constructs, hkind⟩ | h | h)
    · exact hproxy ends calls constructs hkind
    · cases h
    · cases h
  rw [Heap.search_eq_of_proto hgoes (by rw [hnew, hproto]), search_grown hin]

/-- A search goes the same way past an object that is as good for it as the one in its place. -/
theorem search_replaced_of_alike (hlt : ref < s.next) (ho : o.AlikeFor k (s.heap.lookUp ref))
    (other : Ref) : (s.replaced ref o).heap.search k other = s.heap.search k other := by
  have hsize : (s.replaced ref o).heap.objects.size = s.heap.objects.size := next_replaced s ref o
  rw [Heap.search, Heap.search, hsize]
  exact Heap.searchFrom_congr (fun last _ => ⟨lookUp_replaced_congr Object.kind hlt ho.kind last,
    lookUp_replaced_congr Object.proto hlt ho.proto last,
    lookUp_replaced_congr (Object.find? · k) hlt ho.find last⟩) _

theorem onChain_replaced (hlt : ref < s.next) (ho : o.proto = (s.heap.lookUp ref).proto)
    {first last : Ref} : (s.replaced ref o).heap.OnChain first last ↔ s.heap.OnChain first last :=
  Heap.onChain_congr fun last _ => lookUp_replaced_congr Object.proto hlt ho last

section

variable (hoff : ¬ s.heap.OnChain other ref)
include hoff

theorem lookUp_replaced_of_off {last : Ref} (hlast : s.heap.OnChain other last) (o : Object) :
    (s.replaced ref o).heap.lookUp last = s.heap.lookUp last := by
  refine lookUp_replaced_of_ne ?_ o
  rintro rfl
  exact hoff hlast

/-- A search that does not come by an object does not see that it has changed. -/
theorem search_replaced_of_off (o : Object) :
    (s.replaced ref o).heap.search k other = s.heap.search k other := by
  have hsize : (s.replaced ref o).heap.objects.size = s.heap.objects.size := next_replaced s ref o
  rw [Heap.search, Heap.search, hsize]
  exact Heap.searchFrom_congr (fun last hlast => .of_eq (lookUp_replaced_of_off hoff hlast o)) _

theorem onChain_replaced_of_off (o : Object) {last : Ref} :
    (s.replaced ref o).heap.OnChain other last ↔ s.heap.OnChain other last :=
  Heap.onChain_congr fun _ hlast => congrArg Object.proto (lookUp_replaced_of_off hoff hlast o)

end

end ScriptHost.Script
