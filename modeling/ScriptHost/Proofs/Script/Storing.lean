import ScriptHost.Proofs.Machine.Store
import ScriptHost.Proofs.Script.Filling
import ScriptHost.Proofs.Script.Keys
import Mathlib.Data.List.Nodup

/-!
# Data that is stored in the script machine

An array takes one more element, and an object one more member, and each holds just that afterwards
besides what it held before.  Nothing is said of objects that cannot be changed, or that others are
built on: they may refuse, or let the prototypes in.

* `Object.WellKeyed`, `Object.Orderly`: objects that have each key once and let go of all they have;
* `Orderly.names_put`, `Orderly.exists_data?_put`, `Growing.data?_appended`: **what an object holds
  after a change**;
* `storeView`, `scriptStore`: what is relied on of a machine that stores data, **under every
  driver**.
-/

namespace ScriptHost.Script

variable {s : State} {o : Object} {ref other : Ref} {k : Key} {p : Property} {v : ScriptValue}
  {name : Units} {n : Nat}

/-! ## Keys of an object -/

namespace Object

theorem map_fst_putNamed (k : Key) (p : Property) (l : List (Key × Property)) :
    (putNamed k p l).map Prod.fst =
      if k ∈ l.map Prod.fst then l.map Prod.fst else l.map Prod.fst ++ [k] := by
  induction l with
  | nil => rfl
  | cons e l ih =>
    rw [putNamed]
    by_cases he : e.1 = k
    · simp [he]
    · have hmem : k ∈ (e :: l).map Prod.fst ↔ k ∈ l.map Prod.fst := by simp [Ne.symm he]
      rw [if_neg he, List.map_cons, ih]
      simp only [hmem]
      split <;> rfl

/-- No key stands twice among the properties under text and symbols, and no index is among them. -/
structure WellKeyed (o : Object) : Prop where
  nodup : (o.named.map Prod.fst).Nodup
  named : ∀ n, .index n ∉ o.named.map Prod.fst

theorem WellKeyed.put (h : o.WellKeyed) (k : Key) (p : Property) : (o.put k p).WellKeyed := by
  unfold Object.put
  split
  · exact ⟨h.nodup, h.named⟩
  · next hk =>
    have hkeys := map_fst_putNamed k p o.named
    split at hkeys
    · exact ⟨hkeys ▸ h.nodup, fun n => hkeys ▸ h.named n⟩
    · next hnew =>
      refine ⟨?_, fun n hn => ?_⟩
      · rw [hkeys]
        exact List.concat_eq_append ▸ h.nodup.concat hnew
      · rw [hkeys, List.mem_append, List.mem_singleton] at hn
        exact hn.elim (h.named n) fun heq => hk n heq.symm

section

variable (hkind : o.kind = .ordinary)
include hkind

theorem ownKeys_eq : o.ownKeys = o.indexed.keys.map Key.index ++
    ((o.named.map Prod.fst).filter (fun k => !k.isSymbol) ++
      (o.named.map Prod.fst).filter Key.isSymbol) := by
  simp [ownKeys, hkind]

theorem WellKeyed.nodup_ownKeys (h : o.WellKeyed) : o.ownKeys.Nodup := by
  rw [ownKeys_eq hkind, List.nodup_append, List.nodup_append]
  refine ⟨Std.TreeMap.nodup_keys.map fun _ _ => Key.index.inj,
    ⟨h.nodup.filter _, h.nodup.filter _, ?_⟩, ?_⟩
  · rintro k hk _ hk' rfl
    simpa [(List.mem_filter.mp hk').2] using (List.mem_filter.mp hk).2
  · rintro _ hn k hk rfl
    obtain ⟨n, -, hn⟩ := List.mem_map.mp hn
    refine h.named n ?_
    rw [hn]
    exact (List.mem_append.mp hk).elim List.mem_of_mem_filter List.mem_of_mem_filter

theorem WellKeyed.mem_ownKeys (h : o.WellKeyed) : k ∈ o.ownKeys ↔ (o.find? k).isSome := by
  have hnamed : k ∈ (o.named.map Prod.fst).filter (fun k => !k.isSymbol) ++
      (o.named.map Prod.fst).filter Key.isSymbol ↔ k ∈ o.named.map Prod.fst := by
    cases hk : k.isSymbol <;> simp [hk]
  rw [ownKeys_eq hkind, List.mem_append, hnamed]
  by_cases hk : ∃ n, k = .index n
  · obtain ⟨n, rfl⟩ := hk
    have hindexed : Key.index n ∈ o.indexed.keys.map Key.index ↔ n ∈ o.indexed := by simp
    rw [hindexed, or_iff_left (h.named n), Std.TreeMap.mem_iff_isSome_getElem?]
    rfl
  · have hindexed : k ∉ o.indexed.keys.map Key.index := fun h =>
      hk ((List.mem_map.mp h).imp fun _ h => h.2.symm)
    rw [or_iff_right hindexed, find?_named (by simp [hkind]) fun n h => hk ⟨n, h⟩,
      List.lookup_isSome_iff, List.mem_map]
    exact exists_congr fun e => and_congr_right fun _ => eq_comm.trans beq_iff_eq.symm

end

/-! ## Objects with members -/

/-- An ordinary object that takes members: each key names one property, which can be replaced. -/
structure Orderly (o : Object) : Prop where
  kind : o.kind = .ordinary
  extensible : o.extensible = true
  keyed : o.WellKeyed
  canonical : ∀ k p, o.find? k = some p → k.Canonical
  configurable : ∀ k p, o.find? k = some p → p.configurable = true

theorem orderly_empty (proto : Option Ref) : (Object.empty proto .ordinary).Orderly := by
  have hnone (k : Key) : (Object.empty proto .ordinary).find? k = none := by cases k <;> rfl
  refine ⟨rfl, rfl, ⟨List.nodup_nil, fun _ => List.not_mem_nil⟩, fun k p hp => ?_, fun k p hp => ?_⟩
  · cases (hnone k).symm.trans hp
  · cases (hnone k).symm.trans hp

namespace Orderly

theorem find?_put (h : o.Orderly) (k k' : Key) (p : Property) :
    (o.put k p).find? k' = if k = k' then some p else o.find? k' :=
  Object.find?_put (by simp [h.kind]) k' p

theorem put (h : o.Orderly) (name : Units) (v : ScriptValue) :
    (o.put (.ofUnits name) (.plain v)).Orderly where
  kind := (o.kind_put _ _).trans h.kind
  extensible := (o.extensible_put _ _).trans h.extensible
  keyed := h.keyed.put _ _
  canonical k p hp := by
    rw [h.find?_put] at hp
    split at hp
    · next hk => exact hk ▸ canonical_ofUnits name
    · exact h.canonical k p hp
  configurable k p hp := by
    rw [h.find?_put] at hp
    split at hp
    · cases hp
      rfl
    · exact h.configurable k p hp

/-- A key that an object has is the one of its text. -/
theorem ofUnits_of_mem (h : o.Orderly) (hk : k ∈ o.ownKeys) (hname : k.toUnits? = some name) :
    Key.ofUnits name = k := by
  obtain ⟨p, hp⟩ := Option.isSome_iff_exists.mp ((h.keyed.mem_ownKeys h.kind).mp hk)
  exact h.canonical k p hp name hname

theorem mem_names (h : o.Orderly) : name ∈ o.names ↔ (o.find? (.ofUnits name)).isSome := by
  rw [names, List.mem_filterMap, ← h.keyed.mem_ownKeys h.kind]
  constructor
  · rintro ⟨k, hk, hname⟩
    rwa [h.ofUnits_of_mem hk hname]
  · exact fun hk => ⟨_, hk, toUnits?_ofUnits name⟩

theorem nodup_names (h : o.Orderly) : o.names.Nodup := by
  refine List.pairwise_filterMap.mpr ((h.keyed.nodup_ownKeys h.kind).imp_of_mem ?_)
  rintro k k' hk hk' hne name hname _ hname' rfl
  exact hne ((h.ofUnits_of_mem hk hname).symm.trans (h.ofUnits_of_mem hk' hname'))

/-- **One more name**, which takes the place of an equal one. -/
theorem names_put (h : o.Orderly) (name : Units) (v : ScriptValue) :
    (o.put (.ofUnits name) (.plain v)).names.Perm (name :: o.names.filter (· ≠ name)) := by
  refine (List.perm_ext_iff_of_nodup (h.put name v).nodup_names ?_).mpr fun name' => ?_
  · exact List.nodup_cons.mpr ⟨by simp, h.nodup_names.filter _⟩
  · rw [(h.put name v).mem_names, h.find?_put, List.mem_cons, List.mem_filter, h.mem_names]
    by_cases hname : name' = name
    · simp [hname]
    · rw [if_neg fun heq => hname (ofUnits_injective heq).symm]
      simp [hname]

theorem member?_put (h : o.Orderly) (name name' : Units) (v : ScriptValue) :
    (o.put (.ofUnits name) (.plain v)).member? name' =
      if name' = name then some ⟨name, v, true⟩ else o.member? name' := by
  unfold member?
  rw [h.find?_put]
  by_cases hname : name' = name
  · rw [hname, if_pos rfl, if_pos rfl]
    rfl
  · rw [if_neg hname, if_neg fun heq => hname (ofUnits_injective heq).symm]

theorem data?_eq_some_iff (h : o.Orderly) {members : List ScriptHost.Member} :
    o.data? = some (.plain members) ↔
      (∀ name ∈ o.names, (o.member? name).isSome) ∧ o.names.filterMap o.member? = members := by
  simp only [data?, h.kind, List.all_eq_true, Option.ite_none_right_eq_some, Option.some.injEq,
    DataObject.plain.injEq]

/-- **The object holds one more member**, which takes the place of one of the same name. -/
theorem exists_data?_put (h : o.Orderly) {members : List ScriptHost.Member}
    (hdata : o.data? = some (.plain members)) (name : Units) (v : ScriptValue) : ∃ members',
    (o.put (.ofUnits name) (.plain v)).data? = some (.plain members') ∧
      members'.Perm (⟨name, v, true⟩ :: members.filter fun p => p.key ≠ name) := by
  obtain ⟨hall, rfl⟩ := h.data?_eq_some_iff.mp hdata
  refine ⟨_, (h.put name v).data?_eq_some_iff.mpr ⟨fun name' hname' => ?_, rfl⟩, ?_⟩
  · rw [h.member?_put]
    split
    · rfl
    · next hne =>
      have hold := List.mem_cons.mp ((h.names_put name v).mem_iff.mp hname')
      exact hall name' (List.mem_of_mem_filter (hold.resolve_left hne))
  · refine ((h.names_put name v).filterMap _).trans ?_
    rw [List.filterMap_cons_some (by rw [h.member?_put, if_pos rfl])]
    refine (List.perm_cons _).mpr (.of_eq ?_)
    rw [List.filterMap_filter, List.filter_filterMap]
    refine List.filterMap_congr fun name' hname' => ?_
    obtain ⟨q, hq⟩ := Option.isSome_iff_exists.mp (hall name' hname')
    obtain ⟨p, -, -, hkey, -⟩ := exists_of_member hq
    rw [h.member?_put, hq, Option.filter_some, hkey]
    by_cases hname : name' = name
    · simp [hname]
    · simp [hname]

end Orderly

/-! ## Arrays -/

theorem Growing.data?_eq_some_iff (h : o.Growing n) {items : List (Option ScriptValue)} :
    o.data? = some (.array items) ↔
      (∀ item ∈ (List.range n).map o.item?, item.isSome) ∧ (List.range n).map o.item? = items := by
  simp only [data?, h.kind, List.all_eq_true, Option.ite_none_right_eq_some, Option.some.injEq,
    DataObject.array.injEq]

theorem Growing.length_of_data (h : o.Growing n) {items : List (Option ScriptValue)}
    (hdata : o.data? = some (.array items)) : items.length = n := by
  rw [← (h.data?_eq_some_iff.mp hdata).2, List.length_map, List.length_range]

/-- **The array holds one more element.** -/
theorem Growing.data?_appended (h : o.Growing n) (hlt : n < indexLimit)
    {items : List (Option ScriptValue)} (hdata : o.data? = some (.array items)) (v : ScriptValue) :
    (o.appended n v).data? = some (.array (items ++ [some v])) := by
  obtain ⟨hall, rfl⟩ := h.data?_eq_some_iff.mp hdata
  have hitem {m : Nat} (hle : m ≤ n) : (o.appended n v).item? m =
      if m = n then some v else o.item? m := by
    have hkey : Key.ofNat m = .index m := if_pos (Nat.lt_of_le_of_lt hle hlt)
    rw [item?, item?, hkey, h.find?_appended Key.noConfusion]
    by_cases heq : m = n
    · rw [heq, if_pos rfl, if_pos rfl]
      rfl
    · rw [if_neg heq, if_neg fun hk => heq (Key.index.inj hk).symm]
  have hitems : (List.range (n + 1)).map (o.appended n v).item? =
      (List.range n).map o.item? ++ [some v] := by
    rw [List.range_succ, List.map_append, List.map_singleton, hitem (Nat.le_refl n), if_pos rfl]
    congr 1
    refine List.map_congr_left fun m hm => ?_
    have hm := List.mem_range.mp hm
    rw [hitem hm.le, if_neg hm.ne]
  refine (h.appended hlt v).data?_eq_some_iff.mpr ⟨?_, hitems⟩
  rw [hitems]
  intro item hmem
  rcases List.mem_append.mp hmem with hmem | hmem
  · exact hall item hmem
  · rw [List.mem_singleton.mp hmem]
    rfl

/-- The object takes more, if it can hold anything. -/
inductive Open (o : Object) : Prop
  | array {n : Nat} (h : o.Growing n)
  | plain (h : o.Orderly)
  | function {f : FunctionData} (hkind : o.kind = .function f)

theorem Open.growing (h : o.Open) {items : List (Option ScriptValue)}
    (hdata : o.data? = some (.array items)) : o.Growing items.length := by
  cases h with
  | array h => rwa [h.length_of_data hdata]
  | plain h =>
    simp only [data?, h.kind] at hdata
    split at hdata <;> cases hdata
  | function hkind =>
    simp only [data?, hkind] at hdata
    cases hdata

theorem Open.orderly (h : o.Open) {members : List ScriptHost.Member}
    (hdata : o.data? = some (.plain members)) : o.Orderly := by
  cases h with
  | array h =>
    simp only [data?, h.kind] at hdata
    split at hdata <;> cases hdata
  | plain h => exact h
  | function hkind =>
    simp only [data?, hkind] at hdata
    cases hdata

end Object

/-! ## The view -/

/-- What is seen of the states of the script machine.  All positions of arrays are taken, and the
objects that arrays inherit from are left alone. -/
def storeView (driver : Driver) : DataView (scriptMachineBy driver) where
  tame s := ∀ n ≤ indexLimit, Heap.TakesItem (State.heap s) n
  heap := State.data
  extensible s ref := ¬ Heap.OnChain (State.heap s) Intrinsic.arrayPrototype.ref ref ∧
    Object.Open (Heap.lookUp (State.heap s) ref)

variable {driver : Driver} {d d' : DataObject}

theorem data_replaced_of_ne (hne : other ≠ ref) (o : Object) :
    (s.replaced ref o).data other = s.data other := by
  simp [State.data, State.replaced, Heap.replace, Array.getElem?_setIfInBounds_ne (Ne.symm hne)]

theorem data_of_lt (hlt : ref < s.next) : s.data ref = (s.heap.lookUp ref).data? := by
  have hlt : ref < s.heap.objects.size := hlt
  simp [State.data, Heap.lookUp, Array.getD_eq_getD_getElem?, hlt]

theorem lt_next_of_data (h : s.data ref = some d) : ref < s.next :=
  (Array.getElem?_eq_some_iff.mp (exists_of_data h).1).1

theorem sets_replaced (htame : (storeView driver).tame s) (hold : s.data ref = some d)
    (hoff : ¬ s.heap.OnChain Intrinsic.arrayPrototype.ref ref) (hopen : o.Open)
    (ho : o.data? = some d') : (storeView driver).Sets ref d' s (s.replaced ref o) where
  tame n hn := (htame n hn).replaced hoff o
  heap hne hother := (data_replaced_of_ne hne o).trans hother
  extensible {other _} hne _ hother := by
    refine ⟨?_, ?_⟩
    · rw [onChain_replaced_of_off hoff]
      exact hother.1
    · rw [lookUp_replaced_of_ne hne]
      exact hother.2
  here := by
    have hlt := lt_next_of_data hold
    have hlt' : ref < (s.replaced ref o).next := Nat.lt_of_lt_of_eq hlt (next_replaced s ref o).symm
    exact (data_of_lt hlt').trans (by rw [lookUp_replaced hlt, ho])
  extensible_here := by
    refine ⟨?_, ?_⟩
    · rw [onChain_replaced_of_off hoff]
      exact hoff
    · rw [lookUp_replaced (lt_next_of_data hold)]
      exact hopen

theorem adds_store (htame : (storeView driver).tame s) (hopen : o.Open)
    (ho : o.data? = some d) : (storeView driver).Adds (store o s).1 d s (store o s).2 := by
  have hin := (htame 0 (Nat.zero_le _)).inside
  have hchain {last : Ref} : (s.grown [o]).heap.OnChain Intrinsic.arrayPrototype.ref last ↔
      s.heap.OnChain Intrinsic.arrayPrototype.ref last :=
    Heap.onChain_congr fun last hlast =>
      congrArg Object.proto (State.lookUp_grown_of_lt (hin last hlast) [o])
  have hgrown {other : Ref} {d' : DataObject} (hother : s.data other = some d') :
      (s.grown [o]).heap.lookUp other = s.heap.lookUp other :=
    State.lookUp_grown_of_lt (lt_next_of_data hother) [o]
  have hlt : s.next < (s.grown [o]).next := by
    rw [State.next_grown]
    exact Nat.lt_succ_self _
  rw [State.store_eq]
  refine
    { tame := fun n hn => (htame n hn).grown [o]
      heap := fun _ hother => ?_
      extensible := fun _ hdata hother => ⟨hchain.not.mpr hother.1, ?_⟩
      here := (data_of_lt hlt).trans (by rw [State.lookUp_next, ho])
      extensible_here := ⟨fun hlast => Nat.lt_irrefl _ (hin _ (hchain.mp hlast)), ?_⟩
      new := congrArg (Option.bind · Object.data?) (Array.getElem?_eq_none (Nat.le_refl _)) }
  · have hlt' := lt_next_of_data hother
    exact (data_of_lt (Nat.lt_trans hlt' hlt)).trans
      ((congrArg Object.data? (hgrown hother)).trans ((data_of_lt hlt').symm.trans hother))
  · rw [hgrown hdata]
    exact hother.2
  · rw [State.lookUp_next]
    exact hopen

/-! ## The laws -/

/-- **The script machine stores data**, while nothing objects to the elements of arrays. -/
def scriptStore (driver : Driver) : DataStore (scriptMachineBy driver) where
  toDataView := storeView driver
  shows {s} _ := shows_data driver s
  newArray {s} htame :=
    have hempty : (Object.ofItems []).Growing 0 := Object.growing_ofItems (Nat.zero_le _)
    adds_store htame (.array hempty) rfl
  newObject {s} htame := adds_store htame (.plain (Object.orderly_empty _)) rfl
  newNative {s} name id htame := adds_store htame (.function rfl) rfl
  append {s ref items} v htame hdata hopen hlt := by
    obtain ⟨-, hheld⟩ := exists_of_data hdata
    have hgrowing := hopen.2.growing hheld
    refine ⟨State.replaced s ref _, driver.drive_of_frames ?_ rfl, sets_replaced htame hdata hopen.1
      (.array (hgrowing.appended hlt v)) (hgrowing.data?_appended hlt hheld v)⟩
    simp only [bind, Run.bind, push_of_growing hgrowing (htame _ hlt.le) hlt v, pure, Run.pure]
  append_full {s ref items} v htame hdata hopen hge := by
    obtain ⟨-, hheld⟩ := exists_of_data hdata
    have hgrowing := hopen.2.growing hheld
    have hlength : items.length = indexLimit := hgrowing.bounded.antisymm hge
    rw [hlength] at hgrowing
    obtain ⟨t, failure, hfull⟩ := push_full hgrowing (htame _ (Nat.le_refl _)) v
    have hran : (do let _ ← ArrayOp.run .push ⟨.object ref, [v], none⟩ : Run Unit) s =
        .done t (.error failure) := by
      simp only [bind, Run.bind, hfull]
    exact ⟨_, _, driver.drive_done hran⟩
  define {s ref members} name v htame hdata hopen := by
    obtain ⟨-, hheld⟩ := exists_of_data hdata
    have horderly := hopen.2.orderly hheld
    obtain ⟨members', hheld', hperm⟩ := horderly.exists_data?_put hheld name v
    exact ⟨_, members', driver.drive_of_frames (create_of_configurable horderly.kind
      horderly.extensible (horderly.configurable _) v) rfl, hperm,
      sets_replaced htame hdata hopen.1 (.plain (horderly.put name v)) hheld'⟩

end ScriptHost.Script
