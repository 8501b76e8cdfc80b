import ScriptHost.Proofs.Machine.Data
import ScriptHost.Proofs.Machine.Prototypes
import Mathlib.Data.List.Basic

/-!
# Data in the store of the script machine

Some objects in the store hold data and nothing else: arrays all of whose elements are data
properties of their own, and other objects all of whose properties under text are.  What they
inherit, what they have under symbols, and whether they can be changed does not matter.

* `Object.data?`, `State.data`: what the objects of a state hold, as far as they hold data;
* `Driver.drive_ok`: what makes no request is not the driver's affair;
* `shows_data`: **in every state, under every driver, the script machine shows such
  objects as they are.**
-/

namespace ScriptHost.Script

/-! ## What objects hold -/

namespace Object

/-- The element at a position, if it is data. -/
def item? (o : Object) (n : Nat) : Option ScriptValue := (o.find? (.ofNat n)).bind Property.value?

/-- The member of a name, if it is data. -/
def member? (o : Object) (name : Units) : Option ScriptHost.Member := do
  let p ← o.find? (.ofUnits name)
  let v ← p.value?
  pure ⟨name, v, p.enumerable⟩

/-- The names of all members, in the object's order. -/
def names (o : Object) : List Units := o.ownKeys.filterMap Key.toUnits?

/-- What the object holds, if it is nothing but data. -/
def data? (o : Object) : Option DataObject :=
  match o.kind with
  | .array length _ =>
    let items := (List.range length).map o.item?
    if items.all Option.isSome then some (.array items) else none
  | .function _ => some .function
  | .proxy .. => none
  | _ =>
    if o.names.all fun name => (o.member? name).isSome then some
      (.plain (o.names.filterMap o.member?))
    else none

end Object

/-- What the objects of the state hold, as far as they hold data. -/
def State.data (s : State) : DataHeap := fun ref => s.heap.objects[ref]?.bind Object.data?

variable {driver : Driver} {α : Type} {s : State} {o : Object} {ref : Ref} {k : Key} {p : Property}
  {v : ScriptValue} {name : Units}

theorem lookUp_of_getElem? {h : Heap} (ho : h.objects[ref]? = some o) : h.lookUp ref = o := by
  rw [Heap.lookUp, Array.getD_eq_getD_getElem?, ho, Option.getD_some]

theorem exists_of_data {d : DataObject} (h : s.data ref = some d) :
    s.heap.objects[ref]? = some (s.heap.lookUp ref) ∧ (s.heap.lookUp ref).data? = some d := by
  obtain ⟨o, ho, hdata⟩ := Option.bind_eq_some_iff.mp h
  rw [lookUp_of_getElem? ho]
  exact ⟨ho, hdata⟩

namespace Object

theorem not_proxy_of_data {d : DataObject} (h : o.data? = some d) (ends : Option (Ref × Ref))
    (calls constructs : Bool) : o.kind ≠ .proxy ends calls constructs := by
  intro hkind
  rw [data?, hkind] at h
  cases h

theorem exists_of_item {n : Nat} (h : o.item? n = some v) :
    ∃ p, o.find? (.ofNat n) = some p ∧ p.value? = some v := Option.bind_eq_some_iff.mp h

theorem exists_of_member {q : ScriptHost.Member} (h : o.member? name = some q) :
    ∃ p, o.find? (.ofUnits name) = some p ∧ p.value? = some q.value ∧ q.key = name ∧
      q.enumerable = p.enumerable := by
  obtain ⟨p, hp, h⟩ := Option.bind_eq_some_iff.mp h
  obtain ⟨v, hv, h⟩ := Option.bind_eq_some_iff.mp h
  cases h
  exact ⟨p, hp, hv, rfl, rfl⟩

end Object

theorem slot_of_value (h : p.value? = some v) : ∃ writable, p.slot = .data v writable := by
  unfold Property.value? at h
  split at h
  · next writable hslot =>
    cases h
    exact ⟨writable, hslot⟩
  · cases h

/-! ## Runs that make no request -/

/-- What a run has come to without a request, its driver lets stand. -/
theorem Driver.drive_of_frames (driver : Driver) {s' : State} {x : Run α} {a : α}
    (h : x s = .done s' (.ok a)) (hframes : s'.frames = s.frames) :
    driver.drive x s = .done s' (.ok a) := by
  have hdriven := driver.drive_done h
  rwa [← hframes] at hdriven

theorem Driver.drive_ok (driver : Driver) {x : Run α} {a : α} (h : x s = .done s (.ok a)) :
    driver.drive x s = .done s (.ok a) := driver.drive_of_frames h rfl

/-- **What is found as data is got without a request.** -/
theorem get_of_found (hfound : s.heap.search k ref = .found p) (hv : p.value? = some v) :
    Run.get ref k s = .done s (.ok v) := by
  obtain ⟨writable, hslot⟩ := slot_of_value hv
  simp only [Run.get, Run.getWith, Run.read, bind, Run.bind, hfound, Run.propertyValue, hslot, pure,
    Run.pure]

section

variable (hkind : ∀ ends calls constructs, (s.heap.lookUp ref).kind ≠ .proxy ends calls constructs)
include hkind

theorem getOwn_of_not_proxy (k : Key) :
    Run.getOwn ref k s = .done s (.ok ((s.heap.lookUp ref).find? k)) := by
  simp only [Run.getOwn, Run.getOwnWith, Run.objectAt, Run.read, bind, Run.bind, pure, Run.pure]

theorem ownKeys_of_not_proxy : Run.ownKeys ref s = .done s (.ok (s.heap.lookUp ref).ownKeys) := by
  simp only [Run.ownKeys, Run.ownKeysWith, Run.objectAt, Run.read, bind, Run.bind, pure, Run.pure]

theorem search_own (hfind : (s.heap.lookUp ref).find? k = some p) :
    s.heap.search k ref = .found p := by
  rw [Heap.search, Heap.searchFrom]
  split
  · exact absurd ‹_› (hkind _ _ _)
  · rw [hfind]

theorem has_own (hfind : (s.heap.lookUp ref).find? k = some p) :
    Run.has ref k s = .done s (.ok true) := has_of_found (search_own hkind hfind)

theorem get_own (hfind : (s.heap.lookUp ref).find? k = some p) (hv : p.value? = some v) :
    Run.get ref k s = .done s (.ok v) := get_of_found (search_own hkind hfind) hv

end

/-! ## What is shown -/

variable (driver)

theorem showsArray_of_items {length : Nat} {writable : Bool}
    (hkind : (s.heap.lookUp ref).kind = .array length writable)
    (hitems : ((List.range length).map (s.heap.lookUp ref).item?).all Option.isSome = true) :
    (scriptMachineBy driver).ShowsArray s ref
      ((List.range length).map (s.heap.lookUp ref).item?) where
  shape := by
    show shapeOf s ref = .array
    rw [shapeOf, hkind]
  length := by
    refine driver.drive_ok (x := Run.itemCount ref) ?_
    simp only [Run.itemCount, Run.itemCountWith, Run.kindOf, Run.read, bind, Run.bind, hkind, pure,
      Run.pure, List.length_map, List.length_range]
  element n item hitem := by
    have hsome : item.isSome = true := List.all_eq_true.mp hitems item (List.mem_of_getElem? hitem)
    obtain ⟨v, rfl⟩ := Option.isSome_iff_exists.mp hsome
    obtain ⟨hlt, hget⟩ := List.getElem?_eq_some_iff.mp hitem
    rw [List.getElem_map, List.getElem_range] at hget
    obtain ⟨p, hfind, hv⟩ := Object.exists_of_item hget
    exact driver.drive_ok (x := Run.get ref (.ofNat n))
      (get_own (fun _ _ _ h => by rw [hkind] at h; cases h) hfind hv)

theorem showsPlain_of_members (hshape : shapeOf s ref = .plain)
    (hkind : ∀ ends calls constructs, (s.heap.lookUp ref).kind ≠ .proxy ends calls constructs)
    (hmembers : ∀ name ∈ (s.heap.lookUp ref).names, ((s.heap.lookUp ref).member? name).isSome) :
    (scriptMachineBy driver).ShowsPlain s ref
      ((s.heap.lookUp ref).names.filterMap (s.heap.lookUp ref).member?) := by
  have hmember {q : ScriptHost.Member}
      (hq : q ∈ (s.heap.lookUp ref).names.filterMap (s.heap.lookUp ref).member?) :
      ∃ p, (s.heap.lookUp ref).find? (.ofUnits q.key) = some p ∧ p.value? = some q.value ∧
        q.enumerable = p.enumerable := by
    obtain ⟨name, -, hname⟩ := List.mem_filterMap.mp hq
    obtain ⟨p, hfind, hv, hkey, henumerable⟩ := Object.exists_of_member hname
    exact ⟨p, hkey ▸ hfind, hv, henumerable⟩
  refine ⟨hshape, driver.drive_ok (x := Run.toObject (.object ref)) rfl, ?_, ?_, ?_, ?_⟩
  · have hkeys : ((s.heap.lookUp ref).names.filterMap (s.heap.lookUp ref).member?).map
        ScriptHost.Member.key = (s.heap.lookUp ref).names := by
      rw [List.map_filterMap]
      refine (List.filterMap_congr fun name hname => ?_).trans List.filterMap_some
      obtain ⟨q, hq⟩ := Option.isSome_iff_exists.mp (hmembers name hname)
      obtain ⟨p, -, -, hkey, -⟩ := Object.exists_of_member hq
      rw [hq, Option.map_some, hkey]
    rw [hkeys]
    refine driver.drive_ok ?_
    simp only [bind, Run.bind, ownKeys_of_not_proxy hkind, pure, Run.pure]
    rfl
  · intro q hq
    obtain ⟨p, hfind, -, henumerable⟩ := hmember hq
    refine driver.drive_ok ?_
    simp only [bind, Run.bind, getOwn_of_not_proxy hkind, hfind, pure, Run.pure, henumerable]
    rfl
  · intro q hq
    obtain ⟨p, hfind, -⟩ := hmember hq
    exact driver.drive_ok (x := Run.has ref (.ofUnits q.key)) (has_own hkind hfind)
  · intro q hq
    obtain ⟨p, hfind, hv, -⟩ := hmember hq
    exact driver.drive_ok (x := Run.get ref (.ofUnits q.key)) (get_own hkind hfind hv)

/-- **Objects that hold data are shown as they are**, whatever the state of all others. -/
theorem shows_data (s : State) : (scriptMachineBy driver).ShowsData s s.data := by
  intro ref d hd
  obtain ⟨-, hd⟩ := exists_of_data hd
  have hproxy := Object.not_proxy_of_data hd
  unfold Object.data? at hd
  split at hd
  · next length writable hkind =>
    dsimp only at hd
    split at hd
    · next hitems =>
      cases hd
      exact showsArray_of_items driver hkind hitems
    · cases hd
  · next f hkind =>
    cases hd
    show shapeOf s ref = .function
    rw [shapeOf, hkind]
  · cases hd
  · next harray hfunction _ =>
    split at hd
    · next hmembers =>
      cases hd
      refine showsPlain_of_members driver ?_ hproxy (List.all_eq_true.mp hmembers)
      rw [shapeOf]
      split
      · exact absurd ‹_› (harray _ _)
      · exact absurd ‹_› (hfunction _)
      · exact absurd ‹_› (hproxy _ _ _)
      · rfl
    · cases hd

end ScriptHost.Script
