import Mathlib.Data.List.Perm.Basic
import ScriptHost.Proofs.Crossing.Unfolding
import ScriptHost.Proofs.Value.Settled

/-!
# Images of host values

The image of a host value is a value of the script whose unfolding is, but for the order of members,
what the value settles to.  Images are put together as values are:

* trees: `Mirrors`, `MirrorsAll`, and `MirrorsEntries` for the members of an object;
* values of a heap: `ImageOf`, `ImagesOf`, `EntryImage`; `imageOf_array`, `imageOf_map`.
-/

namespace ScriptHost

open HostValue

variable {heap heap' : DataHeap}

/-! ## Trees -/

/-- The tree is what the value settles to, and keeps the bounds that the value keeps. -/
structure Mirrors (v : HostValue) (t : Tree) : Prop where
  alike : ∀ standIn, Alike (settled standIn v) (t.host standIn)
  elements : t.elements = v.elementCount
  depth : t.depth ≤ v.depth
  paired : t.Paired

/-- The same of values and trees one by one. -/
structure MirrorsAll (vs : List HostValue) (ts : List Tree) : Prop where
  alike : ∀ standIn, AllAlike (settledItems standIn vs) (Tree.hosts standIn ts)
  elements : Tree.elementsUnder ts = itemElements vs
  depth : Tree.depthUnder ts ≤ itemDepth vs
  paired : Tree.AllPaired ts
  length : ts.length = vs.length

theorem MirrorsAll.nil : MirrorsAll [] [] :=
  ⟨fun _ => .nil, rfl, Nat.le_refl _, trivial, rfl⟩

theorem MirrorsAll.cons {v : HostValue} {t : Tree} {vs : List HostValue} {ts : List Tree}
    (h : Mirrors v t) (h' : MirrorsAll vs ts) : MirrorsAll (v :: vs) (t :: ts) where
  alike standIn := .cons (h.alike standIn) (h'.alike standIn)
  elements := by rw [Tree.elementsUnder, itemElements, h.elements, h'.elements]
  depth := by
    have := h.depth
    have := h'.depth
    rw [Tree.depthUnder, itemDepth]
    omega
  paired := ⟨h.paired, h'.paired⟩
  length := by rw [List.length_cons, List.length_cons, h'.length]

theorem MirrorsAll.array {vs : List HostValue} {ts : List Tree} (h : MirrorsAll vs ts) :
    Mirrors (.array vs) (.array ts) where
  alike standIn := .array (h.alike standIn)
  elements := by rw [Tree.elements, elementCount, h.elements, h.length]
  depth := h.depth
  paired := h.paired

theorem Tree.length_hosts (standIn : HostValue) (ts : List Tree) :
    (Tree.hosts standIn ts).length = ts.length := by
  induction ts with
  | nil => rfl
  | cons t ts ih => rw [Tree.hosts, List.length_cons, List.length_cons, ih]

/-! ## Values of a heap -/

/-- The value of the script is the image of a host value. -/
structure ImageOf (heap : DataHeap) (v : HostValue) (x : ScriptValue) : Prop where
  mirrors : ∃ t, Unfolds heap x t ∧ Mirrors v t
  isFunction : isFunction heap x = v.isCallable

/-- The values of the script are the images of host values. -/
def ImagesOf (heap : DataHeap) (vs : List HostValue) (xs : List ScriptValue) : Prop :=
  ∃ ts, UnfoldsAll heap xs ts ∧ MirrorsAll vs ts

/-- The member is the image of an entry. -/
structure EntryImage (heap : DataHeap) (e : HostValue × HostValue) (p : Member) : Prop where
  enumerable : p.enumerable = true
  key : ∃ name, e.1 = .string name ∧ p.key = Text.units name
  value : ImageOf heap e.2 p.value

section

variable (hmono : ∀ ref o, heap ref = some o → heap' ref = some o)
include hmono

theorem ImageOf.mono {v : HostValue} {x : ScriptValue} (h : ImageOf heap v x) :
    ImageOf heap' v x := by
  obtain ⟨t, ht, hmirrors⟩ := h.mirrors
  exact ⟨⟨t, ht.mono hmono, hmirrors⟩, (ht.isFunction_eq hmono).trans h.isFunction⟩

theorem ImagesOf.mono {vs : List HostValue} {xs : List ScriptValue} (h : ImagesOf heap vs xs) :
    ImagesOf heap' vs xs := by
  obtain ⟨ts, hts, hmirrors⟩ := h
  exact ⟨ts, hts.mono hmono, hmirrors⟩

theorem EntryImage.mono {e : HostValue × HostValue} {p : Member} (h : EntryImage heap e p) :
    EntryImage heap' e p := ⟨h.enumerable, h.key, h.value.mono hmono⟩

end

theorem ImagesOf.nil : ImagesOf heap [] [] := ⟨[], .nil, .nil⟩

theorem ImagesOf.cons {v : HostValue} {x : ScriptValue} {vs : List HostValue}
    {xs : List ScriptValue}
    (h : ImageOf heap v x) (h' : ImagesOf heap vs xs) : ImagesOf heap (v :: vs) (x :: xs) := by
  obtain ⟨t, ht, hmirrors⟩ := h.mirrors
  obtain ⟨ts, hts, hmirrors'⟩ := h'
  exact ⟨t :: ts, .cons ht hts, .cons hmirrors hmirrors'⟩

theorem imageOf_array {vs : List HostValue} {xs : List ScriptValue} {ref : Ref}
    (ho : heap ref = some (.array (xs.map some))) (h : ImagesOf heap vs xs) :
    ImageOf heap (.array vs) (.object ref) := by
  obtain ⟨ts, hts, hmirrors⟩ := h
  have hitems : (xs.map some).map (·.getD .undefined) = xs := by
    rw [List.map_map]
    exact List.map_id xs
  exact ⟨⟨.array ts, .array ho
    (by rwa [hitems]), hmirrors.array⟩, by simp [isFunction, ho, isCallable]⟩

/-! ## Maps -/

/-- The entry is the host's again: its value is no function. -/
def isData (e : HostValue × HostValue) : Bool := !e.2.isCallable

/-- The unfolded members of an object mirror entries with distinct keys. -/
structure MirrorsEntries (heap : DataHeap) (es : List (HostValue × HostValue))
    (members : List Member) (ts : List Tree) : Prop where
  unfolds : UnfoldsAll heap ((keptMembers heap members).map Member.value) ts
  keys : (keptMembers heap members).map (fun p => Tree.hostKey p.key) =
    (es.filter isData).map Prod.fst
  alike : ∀ standIn, AllAlike ((es.filter isData).map fun e => settled standIn e.2)
    (Tree.hosts standIn ts)
  elements : members.countP (Member.isOmitted heap) + (keptMembers heap members).length +
    Tree.elementsUnder ts = es.length + itemElements (es.map Prod.snd)
  depth : ∀ d, (∀ e ∈ es, e.2.depth < d) → Tree.depthUnder ts ≤ d
  pairedKeys : ∀ p ∈ keptMembers heap members, Text.Paired p.key
  paired : Tree.AllPaired ts

section

variable {e : HostValue × HostValue} {p : Member} {es : List (HostValue × HostValue)}
  {members : List Member} {t : Tree} {ts : List Tree}

/-- A member with a function is counted and left out, as its entry is. -/
theorem MirrorsEntries.omit (h : MirrorsEntries heap es members ts) (hp : EntryImage heap e p)
    (hcallable : e.2.isCallable = true) : MirrorsEntries heap (e :: es) (p :: members) ts := by
  have hfunction : isFunction heap p.value = true := hp.value.isFunction.trans hcallable
  have hkept : keptMembers heap (p :: members) = keptMembers heap members := by
    simp [keptMembers, Member.isKept, hfunction]
  have hcount : (p :: members).countP (Member.isOmitted heap) =
      members.countP (Member.isOmitted heap) + 1 :=
    List.countP_cons_of_pos (by simp [Member.isOmitted, hp.enumerable, hfunction])
  have hdata : (e :: es).filter isData = es.filter isData := by simp [isData, hcallable]
  have hzero : e.2.elementCount = 0 := by
    unfold isCallable at hcallable
    split at hcallable
    · next heq => rw [heq]; rfl
    · cases hcallable
  constructor
  case unfolds => rw [hkept]; exact h.unfolds
  case keys => rw [hkept, hdata]; exact h.keys
  case alike => rw [hdata]; exact h.alike
  case elements =>
    have := h.elements
    rw [hkept, hcount, List.length_cons, List.map_cons, itemElements, hzero]
    omega
  case depth => exact fun d hd => h.depth d fun e he => hd e (List.mem_cons_of_mem _ he)
  case pairedKeys => rw [hkept]; exact h.pairedKeys
  case paired => exact h.paired

/-- Any other member stands for its entry. -/
theorem MirrorsEntries.keep (h : MirrorsEntries heap es members ts) (hp : EntryImage heap e p)
    (hcallable : e.2.isCallable = false) (ht : Unfolds heap p.value t) (hmirrors : Mirrors e.2 t) :
    MirrorsEntries heap (e :: es) (p :: members) (t :: ts) := by
  have hfunction : isFunction heap p.value = false := hp.value.isFunction.trans hcallable
  have hkept : keptMembers heap (p :: members) = p :: keptMembers heap members := by
    simp [keptMembers, Member.isKept, hp.enumerable, hfunction]
  have hcount : (p :: members).countP (Member.isOmitted heap) =
      members.countP (Member.isOmitted heap) :=
    List.countP_cons_of_neg (by simp [Member.isOmitted, hfunction])
  have hdata : (e :: es).filter isData = e :: es.filter isData := by simp [isData, hcallable]
  obtain ⟨name, hname, hkey⟩ := hp.key
  constructor
  case unfolds => rw [hkept]; exact .cons ht h.unfolds
  case keys =>
    rw [hkept, hdata, List.map_cons, List.map_cons, h.keys, hname, hkey, Tree.hostKey,
      Text.pairUnitsLossy_units]
  case alike =>
    rw [hdata]
    exact fun standIn => .cons (hmirrors.alike standIn) (h.alike standIn)
  case elements =>
    have := h.elements
    rw [hkept, hcount, List.length_cons, List.length_cons, List.map_cons, itemElements,
      Tree.elementsUnder, hmirrors.elements]
    omega
  case depth =>
    intro d hd
    have hfirst := hd e List.mem_cons_self
    have hrest := h.depth d fun e he => hd e (List.mem_cons_of_mem _ he)
    have := hmirrors.depth
    rw [Tree.depthUnder]
    omega
  case pairedKeys =>
    rw [hkept, List.forall_mem_cons, hkey]
    exact ⟨Text.paired_units name, h.pairedKeys⟩
  case paired => exact ⟨hmirrors.paired, h.paired⟩

end

theorem exists_mirrorsEntries {es : List (HostValue × HostValue)} {members : List Member}
    (h : List.Forall₂ (EntryImage heap) es members) : ∃ ts, MirrorsEntries heap es members ts := by
  induction h with
  | nil =>
    exact ⟨[], .nil, rfl, fun _ => .nil, rfl, fun _ _ => Nat.zero_le _, fun _ hp => (nomatch hp),
      trivial⟩
  | @cons e p es members first _ ih =>
    obtain ⟨ts, hts⟩ := ih
    obtain ⟨t, ht, hmirrors⟩ := first.value.mirrors
    cases hcallable : e.2.isCallable with
    | true => exact ⟨ts, hts.omit first hcallable⟩
    | false => exact ⟨t :: ts, hts.keep first hcallable ht hmirrors⟩

theorem depth_lt_entryDepth {entries : List (HostValue × HostValue)} {e : HostValue × HostValue}
    (h : e ∈ entries) : e.2.depth < entryDepth entries := by
  induction entries with
  | nil => cases h
  | cons f rest ih =>
    rw [entryDepth]
    rcases List.mem_cons.mp h with rfl | h
    · omega
    · have := ih h
      omega

/-- An object whose members are, in some order, the images of the latest entries of a map is the
image of the map. -/
theorem imageOf_map {entries : List (HostValue × HostValue)} {added members : List Member}
    {ref : Ref} (ho : heap ref = some (.plain members)) (hperm : members.Perm added)
    (h : List.Forall₂ (EntryImage heap) (latest entries) added) :
    ImageOf heap (.map entries) (.object ref) := by
  -- The entries are brought into the order of the members.
  have hcomp : Relation.Comp (List.Forall₂ (EntryImage heap)) List.Perm (latest entries) members :=
    ⟨added, h, hperm.symm⟩
  rw [List.forall₂_comp_perm_eq_perm_comp_forall₂] at hcomp
  obtain ⟨es, hes, hforall⟩ := hcomp
  obtain ⟨ts, hts⟩ := exists_mirrorsEntries hforall
  have hlength (standIn : HostValue) :
      (((keptMembers heap members).map Member.key).map Tree.hostKey).length =
        (Tree.hosts standIn ts).length := by
    rw [Tree.length_hosts, hts.unfolds.length_eq, List.length_map, List.length_map, List.length_map]
  refine ⟨⟨_, .plain ho hts.unfolds, fun standIn => ?_, ?_, ?_, ?_, hts.paired⟩,
    by simp [isFunction, ho, isCallable]⟩
  · rw [settled, settledEntries_eq, Tree.host]
    refine .map ((hes.filter isData).map _) ?_ ?_
    · rw [List.map_fst_zip (Nat.le_of_eq (hlength standIn)), List.map_map, List.map_map]
      exact hts.keys.symm
    · rw [List.map_snd_zip (Nat.le_of_eq (hlength standIn).symm), List.map_map]
      exact hts.alike standIn
  · rw [Tree.elements, elementCount, entryElements_eq, List.length_map, hts.elements, hes.length_eq,
      itemElements_perm (hes.map _)]
  · refine hts.depth _ fun e he => depth_lt_entryDepth (latest_subset (hes.mem_iff.mpr he))
  · simpa using hts.pairedKeys

end ScriptHost
