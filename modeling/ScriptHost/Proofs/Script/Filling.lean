import ScriptHost.Proofs.Script.Changes
import ScriptHost.Proofs.Script.Data
import ScriptHost.Proofs.Script.Whole

/-!
# Filling arrays and objects

An object gets its members one by one, and an array its elements.  A member is defined, so nothing
but the object itself matters.  An element is assigned behind the last one, so the prototypes of
arrays matter too, but they alone, and only if one of them objects to an element at the position.

* `Heap.TakesItem`: nothing objects to an element at a position;
* `Object.Growing`, `push_of_growing`: **one more element** of an array; `push_full`: no array is
  longer than its indices reach;
* `create_of_configurable`: **one more member** of an object;
* `Object.ofItems`, `Object.ofMembers`: new objects when they are filled; `find?_ofItems`,
  `find?_ofMembers` say what they hold.
-/

namespace ScriptHost.Script

variable {s : State} {o o' : Object} {rest : List Object} {ref : Ref} {k : Key}
  {v : ScriptValue} {n : Nat}

/-! ## Putting -/

namespace Object

theorem lookup_cons_eq (k k' : Key) (p : Property) (l : List (Key × Property)) :
    ((k, p) :: l).lookup k' = if k = k' then some p else l.lookup k' := by
  by_cases h : k = k'
  · rw [if_pos h, h, List.lookup_cons_self]
  · rw [if_neg h, List.lookup_cons, beq_false_of_ne (Ne.symm h)]

theorem lookup_putNamed (k k' : Key) (p : Property) (l : List (Key × Property)) :
    (putNamed k p l).lookup k' = if k = k' then some p else l.lookup k' := by
  induction l with
  | nil => rw [putNamed, lookup_cons_eq]
  | cons e l ih =>
    obtain ⟨key, q⟩ := e
    rw [putNamed]
    by_cases hkey : key = k
    · rw [if_pos hkey, lookup_cons_eq, lookup_cons_eq, hkey]
      split <;> rfl
    · rw [if_neg hkey, lookup_cons_eq, lookup_cons_eq, ih]
      split <;> split <;> simp_all

/-- The properties under text and symbols, apart from the length of an array. -/
theorem find?_named {o : Object} {k : Key}
    (harray : ∀ length writable, o.kind = .array length writable → k ≠ lengthKey)
    (hk : ∀ n, k ≠ .index n) : o.find? k = o.named.lookup k := by
  rw [find?]
  · split
    · next length writable hkind => exact if_neg (harray length writable hkind)
    · rfl
  · exact hk

theorem find?_length {o : Object} {length : Nat} {writable : Bool}
    (hkind : o.kind = .array length writable) :
    o.find? lengthKey = some ⟨.data (lengthValue length) writable, false, false⟩ := by
  simp only [lengthKey, find?, hkind, if_true]

/-- What is put under a key stands there, and under no other one.  The length of an array is not put
anywhere. -/
theorem find?_put {o : Object} {k : Key}
    (harray : ∀ length writable, o.kind = .array length writable → k ≠ lengthKey) (k' : Key)
    (p : Property) : (o.put k p).find? k' = if k = k' then some p else o.find? k' := by
  by_cases hk : ∃ n, k = .index n
  · obtain ⟨n, rfl⟩ := hk
    cases k' with
    | index n' =>
      show (o.indexed.insert n p)[n']? = _
      rw [Std.TreeMap.getElem?_insert]
      simp [find?]
    | name text => simp [find?, put]
    | symbol id => simp [find?, put]
  · have hput : o.put k p = { o with named := putNamed k p o.named } := by
      rw [put]
      exact fun n h => hk ⟨n, h⟩
    rw [hput]
    by_cases hk' : ∃ n, k' = .index n
    · obtain ⟨n, rfl⟩ := hk'
      rw [if_neg fun h => hk ⟨n, h⟩]
      rfl
    · have hk' (n : Nat) : k' ≠ .index n := fun h => hk' ⟨n, h⟩
      by_cases hlength : k' = lengthKey ∧ ∃ length writable, o.kind = .array length writable
      · obtain ⟨rfl, length, writable, hkind⟩ := hlength
        rw [if_neg (harray length writable hkind), find?_length hkind]
        exact find?_length hkind
      · have harray' (length : Nat) (writable : Bool) (hkind : o.kind = .array length writable) :
            k' ≠ lengthKey := fun h => hlength ⟨h, length, writable, hkind⟩
        rw [find?_named harray' hk', ← lookup_putNamed]
        exact find?_named harray' hk'

theorem kind_put (o : Object) (k : Key) (p : Property) : (o.put k p).kind = o.kind := by
  unfold put
  split <;> rfl

theorem extensible_put (o : Object) (k : Key) (p : Property) :
    (o.put k p).extensible = o.extensible := by
  unfold put
  split <;> rfl

theorem proto_put (o : Object) (k : Key) (p : Property) : (o.put k p).proto = o.proto := by
  unfold put
  split <;> rfl

end Object

/-! ## What the prototypes object to -/

/-- The prototypes of arrays are in the store, and none of them objects to an element at the
position: the search for it comes to nothing or to a property that can be written to.  A typed array
that has no such element objects to it. -/
structure Heap.TakesItem (h : Heap) (n : Nat) : Prop where
  inside : ∀ last, h.OnChain Intrinsic.arrayPrototype.ref last → last < h.objects.size
  takes : h.search (.ofNat n) Intrinsic.arrayPrototype.ref = .absent ∨
    ∃ v enumerable configurable, h.search (.ofNat n) Intrinsic.arrayPrototype.ref =
      .found ⟨.data v true, enumerable, configurable⟩

theorem Heap.TakesItem.grown (h : s.heap.TakesItem n) (new : List Object) :
    (s.grown new).heap.TakesItem n :=
  ⟨inside_grown h.inside new, by rw [search_grown h.inside]; exact h.takes⟩

theorem Heap.TakesItem.replaced (h : s.heap.TakesItem n)
    (hoff : ¬ s.heap.OnChain Intrinsic.arrayPrototype.ref ref) (o : Object) :
    (s.replaced ref o).heap.TakesItem n where
  inside last hchain := by
    rw [onChain_replaced_of_off hoff] at hchain
    exact Nat.lt_of_lt_of_eq (h.inside last hchain) (next_replaced s ref o).symm
  takes := by
    rw [search_replaced_of_off hoff]
    exact h.takes

/-! ## Defining -/

section

variable {d : Descriptor}

/-- The rules for the definition under the key are the plain ones: the object is no proxy, the key
does not count its elements, no names follow its elements, and no element has to be converted. -/
structure Object.DefinesPlainly (o : Object) (k : Key) : Prop where
  proxy : ∀ ends calls constructs, o.kind ≠ .proxy ends calls constructs
  array : ∀ length writable, o.kind = .array length writable → k ≠ lengthKey
  arguments : ∀ scope followed, o.kind ≠ .arguments scope followed
  closes : o.closes? k = none

theorem Object.DefinesPlainly.of_ordinary (hkind : o.kind = .ordinary) (k : Key) :
    o.DefinesPlainly k where
  proxy _ _ _ h := by cases hkind.symm.trans h
  array _ _ h := by cases hkind.symm.trans h
  arguments _ _ h := by cases hkind.symm.trans h
  closes := o.closes?_eq_none (fun _ _ h => by cases hkind.symm.trans h) k

theorem Object.DefinesPlainly.of_error {origin : Option Origin} (hkind : o.kind = .error origin)
    (k : Key) : o.DefinesPlainly k where
  proxy _ _ _ h := by cases hkind.symm.trans h
  array _ _ h := by cases hkind.symm.trans h
  arguments _ _ h := by cases hkind.symm.trans h
  closes := o.closes?_eq_none (fun _ _ h => by cases hkind.symm.trans h) k

theorem defineWith_of_definesPlainly (hplain : (s.heap.lookUp ref).DefinesPlainly k) :
    Run.defineWith Run.proxyOps ref k d s = Run.definePlain ref k d (s.heap.lookUp ref) s := by
  cases hkind : (s.heap.lookUp ref).kind with
  | proxy ends calls constructs => exact absurd hkind (hplain.proxy ends calls constructs)
  | arguments scope followed => exact absurd hkind (hplain.arguments scope followed)
  | array length writable =>
    simp only [Run.defineWith, Run.objectAt, Run.read, bind, Run.bind, hkind,
      if_neg (hplain.array length writable hkind)]
  | typedArray element length =>
    simp only [Run.defineWith, Run.objectAt, Run.read, bind, Run.bind, hkind, hplain.closes]
  | _ => simp only [Run.defineWith, Run.objectAt, Run.read, bind, Run.bind, hkind]

theorem define_of_define? (hplain : (s.heap.lookUp ref).DefinesPlainly k)
    (hdefine : (s.heap.lookUp ref).define? k d = some o') :
    Run.defineWith Run.proxyOps ref k d s =
      .done { s with heap := s.heap.replace ref o' } (.ok true) := by
  rw [defineWith_of_definesPlainly hplain]
  simp only [Run.definePlain, hdefine, Run.replaceObject, Run.update, bind, Run.bind, pure,
    Run.pure]

theorem define_refused (hplain : (s.heap.lookUp ref).DefinesPlainly k)
    (hdefine : (s.heap.lookUp ref).define? k d = none) :
    Run.defineWith Run.proxyOps ref k d s = .done s (.ok false) := by
  rw [defineWith_of_definesPlainly hplain]
  simp only [Run.definePlain, hdefine, pure, Run.pure]

/-- An object takes a member if all that it has can be changed. -/
theorem define?_of_configurable (hkind : o.kind = .ordinary) (hextensible : o.extensible = true)
    (hproperties : ∀ p, o.find? k = some p → p.configurable = true) (v : ScriptValue) :
    o.define? k (.ofProperty (.plain v)) = some (o.put k (.plain v)) := by
  have hplain : o.define? k (.ofProperty (.plain v)) =
      o.definePlain? k (.ofProperty (.plain v)) := by
    simp only [Object.define?, hkind]
  rw [hplain, Object.definePlain?]
  cases hfind : o.find? k with
  | none =>
    dsimp only
    rw [hextensible, if_pos rfl]
    rfl
  | some p =>
    obtain ⟨slot, enumerable, configurable⟩ := p
    obtain rfl : configurable = true := hproperties _ hfind
    cases slot <;> rfl

/-- **One more member.** -/
theorem create_of_configurable (hkind : (s.heap.lookUp ref).kind = .ordinary)
    (hextensible : (s.heap.lookUp ref).extensible = true)
    (hproperties : ∀ p, (s.heap.lookUp ref).find? k = some p → p.configurable = true)
    (v : ScriptValue) :
    Run.create ref k v s =
      .done (s.replaced ref ((s.heap.lookUp ref).put k (.plain v))) (.ok ()) := by
  simp only [Run.create, Run.define, bind, Run.bind, define_of_define? (.of_ordinary hkind k)
    (define?_of_configurable hkind hextensible hproperties v), Bool.not_true, Bool.false_eq_true,
    if_false, pure, Run.pure, State.replaced]

end

/-! ## Arrays that grow -/

theorem ofNat_ne_lengthKey (hle : n ≤ indexLimit) : Key.ofNat n ≠ lengthKey := by
  rcases Nat.lt_or_eq_of_le hle with hlt | rfl
  · rw [Key.ofNat, if_pos hlt]
    exact Key.noConfusion
  · decide

/-- An array of so many elements that takes one more behind them. -/
structure Object.Growing (o : Object) (n : Nat) : Prop where
  bounded : n ≤ indexLimit
  kind : o.kind = .array n true
  extensible : o.extensible = true
  proto : o.proto = some Intrinsic.arrayPrototype.ref
  behind : ∀ m, n ≤ m → m ≤ indexLimit → o.find? (.ofNat m) = none

/-- The array with one more element. -/
def Object.appended (o : Object) (n : Nat) (v : ScriptValue) : Object :=
  { o.put (.index n) (.plain v) with kind := .array (n + 1) true }

namespace Object.Growing

theorem not_proxy (h : o.Growing n) (ends : Option (Ref × Ref)) (calls constructs : Bool) :
    o.kind ≠ .proxy ends calls constructs := by
  rw [h.kind]
  exact Kind.noConfusion

theorem lt_next (h : (s.heap.lookUp ref).Growing n) : ref < s.next :=
  lt_next_of_kind (by rw [h.kind]; exact Kind.noConfusion)

theorem closes (h : o.Growing n) (k : Key) : o.closes? k = none :=
  o.closes?_eq_none (by simp [h.kind]) k

theorem definesPlainly (h : o.Growing n) (hk : k ≠ lengthKey) : o.DefinesPlainly k :=
  ⟨h.not_proxy, fun _ _ _ => hk, by simp [h.kind], h.closes k⟩

theorem find?_appended (h : o.Growing n) (hk : k ≠ lengthKey) (v : ScriptValue) :
    (o.appended n v).find? k = if .index n = k then some (.plain v) else o.find? k := by
  have hkind : (o.put (.index n) (.plain v)).kind = .array n true := (o.kind_put _ _).trans h.kind
  have hlength : (o.appended n v).find? k = (o.put (.index n) (.plain v)).find? k := by
    cases k with
    | index m => rfl
    | name text => simp only [find?, appended, hkind, if_neg hk]
    | symbol id => simp only [find?, appended, hkind, if_neg hk]
  rw [hlength, find?_put fun _ _ _ => Key.noConfusion]

theorem appended (h : o.Growing n) (hlt : n < indexLimit) (v : ScriptValue) :
    (o.appended n v).Growing (n + 1) where
  bounded := hlt
  kind := rfl
  extensible := h.extensible
  proto := h.proto
  behind m hlow hhigh := by
    have hne : Key.index n ≠ .ofNat m := by
      unfold Key.ofNat
      split
      · simpa using (Nat.ne_of_lt hlow)
      · exact Key.noConfusion
    rw [h.find?_appended (ofNat_ne_lengthKey hhigh), if_neg hne, h.behind m (by omega) hhigh]

theorem define?_index (h : o.Growing n) (hlt : n < indexLimit) (v : ScriptValue) :
    o.define? (.index n) (.ofProperty (.plain v)) = some (o.appended n v) := by
  have hbehind : o.find? (.index n) = none := by
    have := h.behind n (Nat.le_refl n) hlt.le
    rwa [Key.ofNat, if_pos hlt] at this
  have hplain : o.definePlain? (.index n) (.ofProperty (.plain v)) =
      some (o.put (.index n) (.plain v)) := by
    rw [definePlain?, hbehind]
    dsimp only
    rw [h.extensible, if_pos rfl]
    rfl
  simp [define?, h.kind, hplain, Object.appended]

/-- Behind the last index there is a name, and what is stored there is no element. -/
theorem define?_name (h : o.Growing indexLimit) (v : ScriptValue) :
    o.define? (.ofNat indexLimit) (.ofProperty (.plain v)) =
      some (o.put (.ofNat indexLimit) (.plain v)) := by
  have hbehind := h.behind indexLimit (Nat.le_refl _) (Nat.le_refl _)
  have hplain : o.define? (.ofNat indexLimit) (.ofProperty (.plain v)) =
      o.definePlain? (.ofNat indexLimit) (.ofProperty (.plain v)) := by
    simp only [define?, h.kind]
    rfl
  rw [hplain, definePlain?, hbehind]
  dsimp only
  rw [h.extensible, if_pos rfl]
  rfl

end Object.Growing

/-- Nothing objects to an element behind the last one, so it is stored. -/
theorem set_behind (h : (s.heap.lookUp ref).Growing n) (htakes : s.heap.TakesItem n)
    (hdefine : (s.heap.lookUp ref).define? (.ofNat n) (.ofProperty (.plain v)) = some o') :
    Run.set ref (.ofNat n) v s = .done (s.replaced ref o') (.ok ()) := by
  have hbehind := h.behind n (Nat.le_refl n) h.bounded
  have hown : Run.getOwnWith Run.proxyOps ref (.ofNat n) s = .done s (.ok none) := by
    rw [← hbehind]
    exact getOwn_of_not_proxy h.not_proxy _
  have hstore : Run.storeWith Run.proxyOps (.ofNat n) v (.object ref) s =
      .done (s.replaced ref o') (.ok true) := by
    simp only [Run.storeWith, bind, Run.bind, hown,
      define_of_define? (h.definesPlainly (ofNat_ne_lengthKey h.bounded)) hdefine, State.replaced]
  -- The array has nothing at the position, so the prototypes are searched.
  have hgoes : ¬ s.heap.Stops (.ofNat n) ref := by
    rintro (⟨ends, calls, constructs, hkind⟩ | hfind | hcloses)
    · exact h.not_proxy ends calls constructs hkind
    · rw [hbehind] at hfind
      cases hfind
    · rw [h.closes] at hcloses
      cases hcloses
  have hsearch := Heap.search_eq_of_proto hgoes h.proto
  have hset : Run.setWith Run.proxyOps ref (.ofNat n) v (.object ref) s =
      .done (s.replaced ref o') (.ok true) := by
    rcases htakes.takes with habsent | ⟨w, enumerable, configurable, hfound⟩
    · simp only [Run.setWith, Run.read, bind, Run.bind, hsearch, habsent, hstore]
    · simp only [Run.setWith, Run.read, bind, Run.bind, hsearch, hfound, hstore]
  simp only [Run.set, bind, Run.bind, hset, Bool.not_true, Bool.false_eq_true, if_false, pure,
    Run.pure]

/-! ### Lengths -/

theorem arrayLength_lengthValue (hle : n ≤ indexLimit) :
    Run.arrayLengthWith Run.proxyOps (lengthValue n) s = .done s (.ok n) := by
  have hlt : n < 2 ^ 53 := Nat.lt_of_le_of_lt hle (by decide)
  have hlow : decide ((0 : Float) ≤ Float.ofNat n) = true :=
    decide_eq_true (ofNat_le_ofNat (Nat.zero_le n) hlt)
  have hhigh : decide (Float.ofNat n ≤ (4294967295 : Float)) = true :=
    decide_eq_true (ofNat_le_ofNat hle (by decide))
  simp only [Run.arrayLengthWith, Run.toNumberWith, lengthValue, bind, Run.bind, pure, Run.pure,
    toUInt64_ofNat hlt, hlow, hhigh, ofNat_beq_self hlt, Bool.and_self, if_true]

theorem arrayLength_beyond : ∃ t failure,
    Run.arrayLengthWith Run.proxyOps (lengthValue (indexLimit + 1)) s =
      .done t (.error failure) := by
  have hhigh : decide (Float.ofNat (indexLimit + 1) ≤ (4294967295 : Float)) = false := rfl
  simp only [Run.arrayLengthWith, Run.toNumberWith, lengthValue, bind, Run.bind, pure, Run.pure,
    hhigh, Bool.and_false, Bool.false_and, Bool.false_eq_true, if_false]
  exact ⟨_, _, rfl⟩

section

variable (hkind : (s.heap.lookUp ref).kind = .array n true)
include hkind

theorem setWith_length (x : ScriptValue) :
    Run.setWith Run.proxyOps ref lengthKey x (.object ref) s =
      Run.defineWith Run.proxyOps ref lengthKey { Descriptor.blank with value := some x } s := by
  have hproxy (ends : Option (Ref × Ref)) (calls constructs : Bool) :
      (s.heap.lookUp ref).kind ≠ .proxy ends calls constructs := by
    rw [hkind]
    exact Kind.noConfusion
  have hfind := Object.find?_length hkind
  have hown : Run.getOwnWith Run.proxyOps ref lengthKey s = .done s (.ok _) :=
    getOwn_of_not_proxy hproxy lengthKey
  simp only [Run.setWith, Run.storeWith, Run.read, bind, Run.bind, search_own hproxy hfind, hown,
    hfind]

/-- To set the length that an array has changes nothing. -/
theorem setLength_of_array (hle : n ≤ indexLimit) :
    Library.setLength ref n s = .done s (.ok ()) := by
  have hlength : (s.heap.lookUp ref).defineLength n true n
      { Descriptor.blank with value := some (lengthValue n) } = (s.heap.lookUp ref, true) := by
    simp only [Object.defineLength, Property.redefine?, Descriptor.blank, Descriptor.isAccessor]
    simp [← hkind]
  have hdefine : Run.defineWith Run.proxyOps ref lengthKey
      { Descriptor.blank with value := some (lengthValue n) } s = .done s (.ok true) := by
    simp only [Run.defineWith, Run.objectAt, Run.read, bind, Run.bind, hkind, if_true,
      Functor.map, Function.comp, arrayLength_lengthValue hle, Run.pure, Run.change,
      Option.getD_some, hlength]
    exact congrArg (Comp.done · (.ok true)) (s.replaced_self ref)
  simp only [Library.setLength, Run.set, bind, Run.bind, setWith_length hkind, hdefine,
    Bool.not_true, Bool.false_eq_true, if_false, pure, Run.pure]

theorem setLength_beyond : ∃ t failure,
    Library.setLength ref (indexLimit + 1) s = .done t (.error failure) := by
  obtain ⟨t, failure, hbeyond⟩ := arrayLength_beyond (s := s)
  refine ⟨t, failure, ?_⟩
  simp only [Library.setLength, Run.set, bind, Run.bind, setWith_length hkind, Run.defineWith,
    Run.objectAt, Run.read, hkind, if_true, Functor.map, hbeyond]

theorem listed_of_array :
    Library.listed (.object ref) s = .done s (.ok ⟨ref, n⟩) := by
  simp only [Library.listed, Run.toObject, Run.itemCount, Run.itemCountWith, Run.kindOf, Run.read,
    bind, Run.bind, hkind, pure, Run.pure]

end

theorem requireSafeLength_of_le (hle : n ≤ indexLimit) (message : String) :
    Library.requireSafeLength (n + [v].length) message s = .done s (.ok ()) := by
  have hsafe : n + [v].length ≤ Library.safeLimit := Nat.le_trans (Nat.succ_le_succ hle) (by decide)
  simp only [Library.requireSafeLength, if_neg (Nat.not_lt_of_le hsafe), pure, Run.pure]

/-- **One more element.** -/
theorem push_of_growing (h : (s.heap.lookUp ref).Growing n) (htakes : s.heap.TakesItem n)
    (hlt : n < indexLimit) (v : ScriptValue) :
    ArrayOp.run .push ⟨.object ref, [v], none⟩ s =
      .done (s.replaced ref ((s.heap.lookUp ref).appended n v)) (.ok (lengthValue (n + 1))) := by
  have hkey : Key.ofNat n = .index n := if_pos hlt
  have hset := set_behind h htakes (by rw [hkey]; exact h.define?_index hlt v)
  have hkind : ((s.replaced ref ((s.heap.lookUp ref).appended n v)).heap.lookUp ref).kind =
      .array (n + 1) true := by rw [lookUp_replaced h.lt_next]; rfl
  unfold ArrayOp.run
  simp only [bind, Run.bind, listed_of_array h.kind, requireSafeLength_of_le h.bounded,
    Run.foldItems, hset, pure, Run.pure, setLength_of_array hkind hlt]

/-- **No array is longer than its indices reach.** -/
theorem push_full (h : (s.heap.lookUp ref).Growing indexLimit)
    (htakes : s.heap.TakesItem indexLimit) (v : ScriptValue) : ∃ t failure,
    ArrayOp.run .push ⟨.object ref, [v], none⟩ s = .done t (.error failure) := by
  have hset := set_behind h htakes (h.define?_name v)
  generalize ho : (s.heap.lookUp ref).put (.ofNat indexLimit) (.plain v) = o at hset
  have hkind : ((s.replaced ref o).heap.lookUp ref).kind = .array indexLimit true := by
    rw [lookUp_replaced h.lt_next, ← ho, Object.kind_put, h.kind]
  obtain ⟨t, failure, hbeyond⟩ := setLength_beyond hkind
  refine ⟨t, failure, ?_⟩
  unfold ArrayOp.run
  simp only [bind, Run.bind, listed_of_array h.kind, requireSafeLength_of_le h.bounded,
    Run.foldItems, hset, pure, Run.pure, hbeyond]

/-! ## Filled objects -/

namespace Object

/-- The array with these elements and nothing else. -/
def ofItems (items : List ScriptValue) : Object where
  proto := some Intrinsic.arrayPrototype.ref
  extensible := true
  kind := .array items.length true
  indexed := items.zipIdx.foldl (fun done e => done.insert e.2 (.plain e.1)) ∅
  named := []

/-- The object with these members and nothing else; the last one of each name counts. -/
def ofMembers (members : List (Units × ScriptValue)) : Object :=
  members.foldl (fun o p => o.put (.ofUnits p.1) (.plain p.2))
    (.empty (some Intrinsic.objectPrototype.ref) .ordinary)

variable {items : List ScriptValue} {members : List (Units × ScriptValue)} {name : Units}

theorem ofItems_concat (items : List ScriptValue) (v : ScriptValue) :
    ofItems (items ++ [v]) = (ofItems items).appended items.length v := by
  simp [ofItems, appended, put, List.zipIdx_append]

theorem ofMembers_concat (members : List (Units × ScriptValue)) (name : Units) (v : ScriptValue) :
    ofMembers (members ++ [(name, v)]) = (ofMembers members).put (.ofUnits name) (.plain v) :=
  List.foldl_concat ..

theorem indexed_ofItems (items : List ScriptValue) (n : Nat) :
    (ofItems items).indexed[n]? = items[n]?.map Property.plain := by
  induction items using List.reverseRecOn with
  | nil => rfl
  | append_singleton items v ih =>
    have hindexed : (ofItems (items ++ [v])).indexed =
        (ofItems items).indexed.insert items.length (.plain v) := by
      rw [ofItems_concat, appended, put]
    rw [hindexed, Std.TreeMap.getElem?_insert, ih, List.getElem?_append]
    rcases Nat.lt_trichotomy n items.length with hlt | rfl | hgt
    · simp [hlt, hlt.ne']
    · simp
    · simp [hgt.not_gt, hgt.ne, Nat.sub_ne_zero_of_lt hgt]

theorem find?_ofItems (items : List ScriptValue) (k : Key) :
    (ofItems items).find? k =
      match k with
      | .index n => items[n]?.map .plain
      | k =>
        if k = lengthKey then some ⟨.data (lengthValue items.length) true, false, false⟩
        else none := by
  cases k with
  | index n => exact indexed_ofItems items n
  | name text => rfl
  | symbol id => rfl

theorem growing_ofItems (hle : items.length ≤ indexLimit) :
    (ofItems items).Growing items.length where
  bounded := hle
  kind := rfl
  extensible := rfl
  proto := rfl
  behind m hlow hhigh := by
    rw [find?_ofItems]
    by_cases hlt : m < indexLimit
    · rw [Key.ofNat, if_pos hlt]
      simpa using hlow
    · have hne := ofNat_ne_lengthKey hhigh
      rw [Key.ofNat, if_neg hlt] at hne ⊢
      exact if_neg hne

theorem kind_ofMembers (members : List (Units × ScriptValue)) :
    (ofMembers members).kind = .ordinary := by
  induction members using List.reverseRecOn with
  | nil => rfl
  | append_singleton members p ih => rw [ofMembers_concat, kind_put, ih]

theorem extensible_ofMembers (members : List (Units × ScriptValue)) :
    (ofMembers members).extensible = true := by
  induction members using List.reverseRecOn with
  | nil => rfl
  | append_singleton members p ih => rw [ofMembers_concat, extensible_put, ih]

theorem find?_ofMembers (members : List (Units × ScriptValue)) (k : Key) :
    (ofMembers members).find? k =
      (members.filter fun p => Key.ofUnits p.1 = k).getLast?.map fun p => .plain p.2 := by
  induction members using List.reverseRecOn with
  | nil =>
    cases k <;> rfl
  | append_singleton members p ih =>
    rw [ofMembers_concat, find?_put (by simp [kind_ofMembers]), List.filter_append, ih]
    by_cases hk : Key.ofUnits p.1 = k <;> simp [hk]

theorem configurable_ofMembers (members : List (Units × ScriptValue)) (k : Key) (p : Property)
    (hfind : (ofMembers members).find? k = some p) : p.configurable = true := by
  rw [find?_ofMembers] at hfind
  obtain ⟨old, -, rfl⟩ := Option.map_eq_some_iff.mp hfind
  rfl

end Object

section

variable {items : List ScriptValue} {members : List (Units × ScriptValue)}

/-- **A new array gets one more element.** -/
theorem push_ofItems (htakes : s.heap.TakesItem items.length) (hlt : items.length < indexLimit) :
    ArrayOp.run .push ⟨.object s.next, [v], none⟩ (s.grown (.ofItems items :: rest)) =
      .done (s.grown (.ofItems (items ++ [v]) :: rest)) (.ok (lengthValue (items.length + 1))) := by
  have hnew := s.lookUp_next (.ofItems items) rest
  have hpush := push_of_growing (by rw [hnew]; exact Object.growing_ofItems hlt.le)
    (htakes.grown (.ofItems items :: rest)) hlt v
  rwa [hnew, ← Object.ofItems_concat, State.replaced, State.replace_next] at hpush

/-- **A new object gets one more member.** -/
theorem create_ofMembers (name : Units) (v : ScriptValue) :
    Run.create s.next (.ofUnits name) v (s.grown (.ofMembers members :: rest)) =
      .done (s.grown (.ofMembers (members ++ [(name, v)]) :: rest)) (.ok ()) := by
  have hnew := s.lookUp_next (.ofMembers members) rest
  have hcreate : Run.create s.next (.ofUnits name) v (s.grown (.ofMembers members :: rest)) = _ :=
    create_of_configurable (by rw [hnew, Object.kind_ofMembers])
      (by rw [hnew, Object.extensible_ofMembers])
      (by rw [hnew]; exact Object.configurable_ofMembers members _) v
  rwa [hnew, ← Object.ofMembers_concat, State.replaced, State.replace_next] at hcreate

end

end ScriptHost.Script
