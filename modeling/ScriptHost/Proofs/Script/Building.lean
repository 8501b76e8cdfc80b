import ScriptHost.Proofs.Crossing.Effect
import ScriptHost.Proofs.Crossing.Thrown
import ScriptHost.Proofs.Script.Filling
import ScriptHost.Proofs.Script.Tampering
import ScriptHost.Proofs.Stack.Data
import ScriptHost.Proofs.Value.Settled

/-!
# Building script values

A host value is written into the store of the script machine as new objects behind all others.
Which objects these are can be calculated from the value alone, and from the places that they get.

* `HostValue.longest`: the only indices that matter are those of the longest array;
* `Built`, `Marshaller.built`: what is made of a value;
* `Marshaller.push_of_takesItem`: **the value is built, and nothing else happens.**
-/

namespace ScriptHost

open Stack Stacked Crossing Script

/-! ## What is built -/

namespace HostValue

mutual

/-- The length of the longest array in the value. -/
def longest : HostValue → Nat
  | array items => max items.length (longestItem items)
  | map entries => longestEntry entries
  | _ => 0

/-- The length of the longest array in one of these. -/
def longestItem : List HostValue → Nat
  | [] => 0
  | v :: rest => max (longest v) (longestItem rest)

/-- The length of the longest array in one of these entries. -/
def longestEntry : List (HostValue × HostValue) → Nat
  | [] => 0
  | (_, v) :: rest => max (longest v) (longestEntry rest)

end

end HostValue

/-- What is made of something: script values, and the new objects and host functions behind them. -/
structure Built (α : Type) where
  made : α
  objects : List Object
  functions : List BoundFunction

/-- A host function as an object. -/
def Script.nativeObject (name : Units) (id : NativeId) : Object :=
  functionObject Intrinsic.functionPrototype.ref ⟨.native id, frameLabel name, false⟩ name 0

namespace Marshaller

section

variable (m : Marshaller)

mutual

/-- What is made of a value, if `place` is the next place for an object and `id` the next number of
a host function. -/
def built (place id : Nat) : HostValue → Built ScriptValue
  | .null => ⟨.null, [], []⟩
  | .boolean b => ⟨.boolean b, [], []⟩
  | .number x => ⟨.number x, [], []⟩
  | .string text => ⟨.string (Text.units text), [], []⟩
  | .array items =>
    let b := builtItems (place + 1) id items
    ⟨.object place, .ofItems b.made :: b.objects, b.functions⟩
  | .map entries =>
    let b := builtEntries (place + 1) id entries
    ⟨.object place, .ofMembers b.made :: b.objects, b.functions⟩
  | .callable f => ⟨.object place, [nativeObject (Text.units "") ⟨id⟩], [⟨f, m⟩]⟩
  | .complexObject _ | .foreign _ => ⟨.undefined, [], []⟩

/-- The same of some values, one after the other. -/
def builtItems (place id : Nat) : List HostValue → Built (List ScriptValue)
  | [] => ⟨[], [], []⟩
  | item :: rest =>
    let b := built place id item
    let more := builtItems (place + b.objects.length) (id + b.functions.length) rest
    ⟨b.made :: more.made, b.objects ++ more.objects, b.functions ++ more.functions⟩

/-- The same of some entries, one after the other. -/
def builtEntries (place id : Nat) : List (HostValue × HostValue) →
    Built (List (Units × ScriptValue))
  | [] => ⟨[], [], []⟩
  | (key, item) :: rest =>
    let b := built place id item
    let more := builtEntries (place + b.objects.length) (id + b.functions.length) rest
    ⟨(Text.units (key.asString?.getD ""), b.made) :: more.made, b.objects ++ more.objects,
      b.functions ++ more.functions⟩

end

end

/-! ## What the machine does -/

variable {driver : Driver} {δ : Type}
  {handler : Handler (scriptMachineBy driver) BoundFunction (HostState δ)}
  {t : State} {rest : List Object} {natives : Array BoundFunction} {host : HostState δ}
  {slots : Array ScriptValue} {x : ScriptValue}

/-- A session on a stack that is not poisoned. -/
abbrev sessionOf (driver : Driver) (t : State) (natives : Array BoundFunction) (host : HostState δ)
    (slots : Array ScriptValue) : Session (scriptMachineBy driver) BoundFunction (HostState δ) :=
  ⟨⟨t, natives, host⟩, slots, none⟩

theorem pushStored_run (o : Object) :
    (depth >>= fun index => Stacked.make (store o) >>= fun ref =>
      Stack.pushValue (.object ref) >>= fun _ => pure index :
        Crossing (scriptMachineBy driver) δ Error Nat) handler
      (sessionOf driver t natives host slots) =
        .ok slots.size
          (sessionOf driver (t.grown [o]) natives host (slots.push (.object t.next))) := by
  show Outcome.ok slots.size (sessionOf driver (store o t).2 natives host
    (slots.push (.object (store o t).1))) = _
  rw [State.store_eq]

theorem pushArray_run : (pushArray : Crossing (scriptMachineBy driver) δ Error Nat) handler
    (sessionOf driver t natives host slots) =
      .ok slots.size
        (sessionOf driver (t.grown [.ofItems []]) natives host (slots.push (.object t.next))) :=
  pushStored_run (.ofItems [])

theorem pushObject_run : (pushObject : Crossing (scriptMachineBy driver) δ Error Nat) handler
    (sessionOf driver t natives host slots) =
      .ok slots.size
        (sessionOf driver (t.grown [.ofMembers []]) natives host (slots.push (.object t.next))) :=
  pushStored_run (.ofMembers [])

theorem pushNative_run (name : String) (body : BoundFunction) :
    (pushNative name body : Crossing (scriptMachineBy driver) δ Error Unit) handler
      (sessionOf driver t natives host slots) =
        .ok () (sessionOf driver (t.grown [nativeObject (Text.units name) ⟨natives.size⟩])
          (natives ++ [body].toArray) host (slots.push (.object t.next))) := by
  show Outcome.ok () (sessionOf driver (store _ t).2 (natives.push body) host
    (slots.push (.object (store _ t).1))) = _
  rw [State.store_eq, Array.push_eq_append]
  rfl

variable {slot : Nat}

/-- The top becomes the next element of a new array. -/
theorem append_run {items : List ScriptValue} (hslot : slots[slot]? = some (.object t.next))
    (htakes : t.heap.TakesItem items.length) (hlt : items.length < indexLimit) :
    (check (append slot) : Crossing (scriptMachineBy driver) δ Error Unit) handler
      (sessionOf driver (t.grown (.ofItems items :: rest)) natives host (slots.push x)) =
        .ok () (sessionOf driver (t.grown (.ofItems (items ++ [x]) :: rest)) natives
          host slots) := by
  have hshape : (scriptMachineBy driver).shape (t.grown (.ofItems items :: rest))
      t.next = .array := by
    show shapeOf _ _ = _
    rw [shapeOf, State.lookUp_next, (Object.growing_ofItems hlt.le).kind]
  have happend : (scriptMachineBy driver).append t.next x (t.grown (.ofItems items :: rest)) =
      .done (t.grown (.ofItems (items ++ [x]) :: rest)) (.ok ()) := by
    refine driver.drive_of_frames ?_ rfl
    simp only [bind, Run.bind, push_ofItems htakes hlt, pure, Run.pure]
  exact run_of_ends (check_ends
    (append_ends rfl (getElem?_push_of_some hslot x) hshape happend rfl))

theorem putProp_run {members : List (Units × ScriptValue)}
    (hslot : slots[slot]? = some (.object t.next)) (name : String) :
    (check (putProp slot (Text.utf8 name)) : Crossing (scriptMachineBy driver) δ Error Unit) handler
      (sessionOf driver (t.grown (.ofMembers members :: rest)) natives host (slots.push x)) =
        .ok () (sessionOf driver (t.grown (.ofMembers (members ++ [(Text.units name, x)]) :: rest))
          natives host slots) := by
  have hdefine : (scriptMachineBy driver).define t.next (Text.units name) x
      (t.grown (.ofMembers members :: rest)) =
        .done (t.grown (.ofMembers (members ++ [(Text.units name, x)]) :: rest)) (.ok ()) :=
    driver.drive_of_frames (create_ofMembers (Text.units name) x) rfl
  exact run_of_ends (check_ends (putProp_ends rfl (getElem?_push_of_some hslot x) hdefine rfl))

/-! ## The recursion -/

variable (m : Marshaller)

/-- The value is built in every state in which its elements are taken. -/
def Builds (handler : Handler (scriptMachineBy driver) BoundFunction (HostState δ))
    (v : HostValue) : Prop :=
  ∀ (level : Nat) (t : State) (natives : Array BoundFunction) (host : HostState δ)
    (slots : Array ScriptValue), v.Portable → level + v.depth ≤ m.maxDepth →
    (∀ n < v.longest, t.heap.TakesItem n) → ∀ b, m.built t.next natives.size v = b →
    m.pushValue level v handler (sessionOf driver t natives host slots) =
      .ok () (sessionOf driver (t.grown b.objects) (natives ++ b.functions.toArray) host
        (slots.push b.made))

variable {m} {level : Nat}

/-- The next place behind a container, what is in it already, and something new. -/
theorem next_append (place : Nat) (objects new : List Object) :
    place + ((objects ++ new).length + 1) = place + (objects.length + 1) + new.length := by
  rw [List.length_append]
  omega

theorem size_append (natives : Array BoundFunction) (functions : List BoundFunction) :
    (natives ++ functions.toArray).size = natives.size + functions.length := by
  simp

/-- **One more thing in a container.**  A value is built behind the new container and all that is in
it already, and then it is filled in; what comes next starts from there. -/
theorem filled_run {β : Type} {container : List β → Object} {entry : ScriptValue → β}
    {done : List β} {v : HostValue} {fill next : Crossing (scriptMachineBy driver) δ Error Unit}
    (hv : m.Builds handler v) (hportable : v.Portable) (hdepth : level + 1 + v.depth ≤ m.maxDepth)
    (htakes : ∀ n < v.longest, t.heap.TakesItem n)
    (hfill : ∀ rest natives x, fill handler
      (sessionOf driver (t.grown (container done :: rest)) natives host (slots.push x)) =
        .ok () (sessionOf driver (t.grown (container (done ++ [entry x]) :: rest))
          natives host slots))
    {first : Built ScriptValue}
    (hfirst : m.built (t.next + (rest.length + 1)) natives.size v = first) :
    (m.pushValue (level + 1) v >>= fun _ => fill >>= fun _ => next) handler
      (sessionOf driver (t.grown (container done :: rest)) natives host slots) =
        next handler
          (sessionOf driver (t.grown
            (container (done ++ [entry first.made]) :: (rest ++ first.objects)))
            (natives ++ first.functions.toArray) host slots) := by
  have hone := hv (level + 1) (t.grown (container done :: rest)) natives host slots hportable hdepth
    (fun n hn => (htakes n hn).grown _) _ rfl
  rw [State.next_grown, List.length_cons, hfirst] at hone
  rw [bind_apply, hone]
  dsimp only
  rw [bind_apply, State.grown_grown, List.cons_append, hfill]

/-- The elements are built one after the other, and each is put behind those before it. -/
theorem pushItems_run {items : List HostValue} (hitems : ∀ item ∈ items, m.Builds handler item)
    {done : List ScriptValue} (hslot : slots[slot]? = some (.object t.next))
    (hportable : HostValue.AllPortable items)
    (hdepth : level + HostValue.itemDepth items ≤ m.maxDepth)
    (hlength : done.length + items.length ≤ indexLimit)
    (htakes : ∀ n < max (done.length + items.length) (HostValue.longestItem items),
      t.heap.TakesItem n)
    {b : Built (List ScriptValue)}
    (hb : m.builtItems (t.next + (rest.length + 1)) natives.size items = b) :
    m.pushItems level slot items handler
      (sessionOf driver (t.grown (.ofItems done :: rest)) natives host slots) =
        .ok () (sessionOf driver (t.grown (.ofItems (done ++ b.made) :: (rest ++ b.objects)))
          (natives ++ b.functions.toArray) host slots) := by
  induction items generalizing done rest natives b with
  | nil =>
    subst hb
    simp only [pushItems, builtItems, List.append_nil, Array.append_empty]
    rfl
  | cons item items ih =>
    obtain ⟨hitem, hrest⟩ := List.forall_mem_cons.mp hitems
    obtain ⟨hportableItem, hportable⟩ := hportable
    rw [HostValue.itemDepth] at hdepth
    rw [List.length_cons] at hlength htakes
    rw [HostValue.longestItem] at htakes
    rw [builtItems] at hb
    rw [pushItems, filled_run hitem hportableItem (by omega) (fun n hn => htakes n (by omega))
      (fun _ _ _ => append_run hslot (htakes _ (by omega)) (by omega)) rfl]
    -- What the item is made into does not matter from here on, only where it stands.
    generalize m.built (t.next + (rest.length + 1)) natives.size item = first at hb ⊢
    subst hb
    have hlength' : (done ++ [first.made]).length = done.length + 1 := List.length_append
    have hmore := congrArg₂ (m.builtItems · · items) (next_append t.next rest first.objects)
      (size_append natives first.functions)
    rw [ih hrest hportable (by omega) (by rw [hlength']; omega)
      (fun n hn => htakes n (by rw [hlength'] at hn; omega)) hmore]
    simp only [List.append_assoc, Array.append_assoc, List.singleton_append, List.append_toArray]

/-- The entries are built one after the other, and each is put where the last one
of its name was. -/
theorem pushEntries_run {entries : List (HostValue × HostValue)}
    (hentries : ∀ e ∈ entries, m.Builds handler e.2) {done : List (Units × ScriptValue)}
    (hslot : slots[slot]? = some (.object t.next)) (hportable : HostValue.PortableEntries entries)
    (hdepth : level + HostValue.entryDepth entries ≤ m.maxDepth)
    (htakes : ∀ n < HostValue.longestEntry entries, t.heap.TakesItem n)
    {b : Built (List (Units × ScriptValue))}
    (hb : m.builtEntries (t.next + (rest.length + 1)) natives.size entries = b) :
    m.pushEntries level slot entries handler
      (sessionOf driver (t.grown (.ofMembers done :: rest)) natives host slots) =
        .ok () (sessionOf driver (t.grown (.ofMembers (done ++ b.made) :: (rest ++ b.objects)))
          (natives ++ b.functions.toArray) host slots) := by
  induction entries generalizing done rest natives b with
  | nil =>
    subst hb
    simp only [pushEntries, builtEntries, List.append_nil, Array.append_empty]
    rfl
  | cons e entries ih =>
    obtain ⟨key, item⟩ := e
    obtain ⟨hvalue, hrest⟩ := List.forall_mem_cons.mp hentries
    have hitem : m.Builds handler item := hvalue
    obtain ⟨⟨name, rfl⟩, hportableItem, hportable⟩ := hportable
    rw [HostValue.entryDepth] at hdepth
    rw [HostValue.longestEntry] at htakes
    rw [builtEntries] at hb
    rw [pushEntries, filled_run hitem hportableItem (by omega) (fun n hn => htakes n (by omega))
      (fun _ _ _ => putProp_run hslot name) rfl]
    generalize m.built (t.next + (rest.length + 1)) natives.size item = first at hb ⊢
    subst hb
    have hmore := congrArg₂ (m.builtEntries · · entries) (next_append t.next rest first.objects)
      (size_append natives first.functions)
    rw [ih hrest hportable (by omega) (fun n hn => htakes n (by omega)) hmore]
    simp only [List.append_assoc, Array.append_assoc, List.singleton_append, List.append_toArray]
    rfl

theorem builds_array {items : List HostValue} (hitems : ∀ item ∈ items, m.Builds handler item) :
    m.Builds handler (.array items) := by
  rintro level t natives host slots ⟨hlength, hportable⟩ hdepth htakes b rfl
  rw [HostValue.depth] at hdepth
  rw [pushValue, if_neg (by omega), bind_apply, pushArray_run]
  dsimp only
  rw [pushItems_run hitems Array.getElem?_push_size hportable hdepth
    (by rwa [List.length_nil, Nat.zero_add]) (by rwa [List.length_nil, Nat.zero_add]) rfl]
  rfl

theorem builds_map {entries : List (HostValue × HostValue)}
    (hentries : ∀ e ∈ entries, m.Builds handler e.2) : m.Builds handler (.map entries) := by
  rintro level t natives host slots hportable hdepth htakes b rfl
  rw [HostValue.depth] at hdepth
  rw [pushValue, if_neg (by omega), bind_apply, pushObject_run]
  dsimp only
  rw [pushEntries_run hentries Array.getElem?_push_size hportable hdepth htakes rfl]
  rfl

theorem builds_leaf {v : HostValue} {x : ScriptValue}
    (hbuilt : ∀ place id, m.built place id v = ⟨x, [], []⟩) (hpush : ∀ level, ¬ m.maxDepth < level →
      (m.pushValue level v : Crossing (scriptMachineBy driver) δ Error Unit) = Stack.pushValue x) :
    m.Builds handler v := by
  rintro level t natives host slots - hdepth - b rfl
  rw [hpush level (by omega), hbuilt, State.grown_nil, Array.append_empty]
  rfl

mutual

/-- **Every value is built.** -/
theorem builds (v : HostValue) : m.Builds handler v := by
  match v with
  | .null => exact builds_leaf (fun _ _ => rfl) fun _ h => by rw [pushValue, if_neg h, pushNull]
  | .boolean b => exact builds_leaf (fun _ _ => rfl) fun _ h => by rw [pushValue,
      if_neg h, pushBoolean]
  | .number x => exact builds_leaf (fun _ _ => rfl) fun _ h => by rw [pushValue,
      if_neg h, pushNumber]
  | .string text =>
    exact builds_leaf (fun _ _ => rfl) fun _ h => by
      rw [pushValue, if_neg h, pushString, Text.decodeUnits_utf8]
  | .array items => exact builds_array (builds_items items)
  | .map entries => exact builds_map (builds_entries entries)
  | .callable f =>
    rintro level t natives host slots - hdepth - b rfl
    rw [pushValue, if_neg (by omega), pushNative_run]
    rfl
  | .complexObject _ => exact fun _ _ _ _ _ hportable => hportable.elim
  | .foreign _ => exact fun _ _ _ _ _ hportable => hportable.elim

theorem builds_items (items : List HostValue) : ∀ item ∈ items, m.Builds handler item := by
  match items with
  | [] => exact fun _ h => nomatch h
  | item :: rest => exact List.forall_mem_cons.mpr ⟨builds item, builds_items rest⟩

theorem builds_entries (entries : List (HostValue × HostValue)) :
    ∀ e ∈ entries, m.Builds handler e.2 := by
  match entries with
  | [] => exact fun _ h => nomatch h
  | (key, item) :: rest => exact List.forall_mem_cons.mpr ⟨builds item, builds_entries rest⟩

end

/-- **Data is written without being intercepted.**  The value has a script form and is not too deep,
and none of the prototypes of arrays objects to an index below the length of its longest array.
Then the conversion comes to new objects behind all others, which are calculated from the value
alone, whatever else there is in the state and whatever functions of the script or of the host would
do if they were called. -/
theorem push_of_takesItem (m : Marshaller) (driver : Driver)
    (handler : Handler (scriptMachineBy driver) BoundFunction (HostState δ)) (s : State)
    (natives : Array BoundFunction) (host : HostState δ) (slots : Array ScriptValue) {v : HostValue}
    (hv : v.Portable) (hdepth : v.depth ≤ m.maxDepth)
    (htakes : ∀ n < v.longest, s.heap.TakesItem n) :
    let b := m.built s.next natives.size v
    m.push v handler ⟨⟨s, natives, host⟩, slots, none⟩ =
      .ok () ⟨⟨s.grown b.objects, natives ++ b.functions.toArray, host⟩,
        slots.push b.made, none⟩ := by
  intro b
  have hvalue : m.pushValue 0 v handler (sessionOf driver s natives host slots) =
      .ok () (sessionOf driver (s.grown b.objects) (natives ++ b.functions.toArray) host
        (slots.push b.made)) :=
    builds v 0 s natives host slots hv (by rwa [Nat.zero_add]) htakes b rfl
  simp only [push, bind_apply, depth, Stacked.read, attempt, hvalue]
  rfl

/-- The prototypes object to the indices behind the first two, and to names. -/
def guardedState : State :=
  let spoof : Property := ⟨.accessor (some 8) (some 8), true, true⟩
  surrounded default
    { (default : Object) with
      named := [(.name (Text.units "a"), spoof), (.name (Text.units "__proto__"), spoof)]
      indexed := (∅ : Std.TreeMap Nat Property).insert 2 (.fixed .null) }
    { (default : Object) with
      proto := some Intrinsic.objectPrototype.ref
      kind := .array 4 true
      indexed := (∅ : Std.TreeMap Nat Property).insert 3 spoof }
    .null

theorem takesItem_guarded {n : Nat} (hn : n < 2) : guardedState.heap.TakesItem n := by
  refine ⟨fun last hchain => ?_, .inl ?_⟩
  · rcases hchain.cases_head with rfl | ⟨proto, hproto, hchain⟩
    · decide
    · cases hproto
      rcases hchain.cases_head with rfl | ⟨proto, hproto, -⟩
      · decide
      · cases hproto
  · match n, hn with
    | 0, _ => rfl
    | 1, _ => rfl

/-- Two elements are taken, and so is a member that the prototype has an accessor for. -/
theorem push_of_takesItem_guarded :
    (HostValue.array [.boolean true, .map [(.string "a", .null)]]).Portable ∧
    (HostValue.array [.boolean true, .map [(.string "a", .null)]]).depth ≤ 10 ∧
    (∀ n < (HostValue.array [.boolean true, .map [(.string "a", .null)]]).longest,
      guardedState.heap.TakesItem n) ∧
    ∀ handler : Handler (scriptMachineBy .refusing) BoundFunction (HostState Unit),
      (⟨none, 10, 10⟩ : Marshaller).push (.array [.boolean true, .map [(.string "a", .null)]])
        handler ⟨⟨guardedState, #[], ⟨.fresh, ()⟩⟩, #[], none⟩ =
          .ok () ⟨⟨guardedState.grown
            [.ofItems [.boolean true, .object 10], .ofMembers [(Text.units "a", .null)]],
            #[], ⟨.fresh, ()⟩⟩, #[.object 9], none⟩ := by
  have hportable : (HostValue.array [.boolean true, .map [(.string "a", .null)]]).Portable :=
    ⟨by decide, trivial, ⟨⟨"a", rfl⟩, trivial, trivial⟩, trivial⟩
  have hdepth : (HostValue.array [.boolean true, .map [(.string "a", .null)]]).depth ≤ 10 := by
    decide
  have htakes : ∀ n < (HostValue.array [.boolean true, .map [(.string "a", .null)]]).longest,
      guardedState.heap.TakesItem n := fun n hn => takesItem_guarded hn
  exact ⟨hportable, hdepth, htakes, fun handler =>
    push_of_takesItem ⟨none, 10, 10⟩ .refusing handler guardedState #[] ⟨.fresh, ()⟩ #[] hportable
      hdepth htakes⟩

end Marshaller

end ScriptHost
