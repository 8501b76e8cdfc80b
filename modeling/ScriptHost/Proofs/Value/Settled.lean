import ScriptHost.Proofs.Value.Alike
import ScriptHost.Script.Key

/-!
# What is left of a value that has crossed

A value crosses to the script if it has a script form (`Portable`).  On the way there the last of
several entries with one key wins; on the way back functions have no form, so they are left out of
maps and are replaced everywhere else.  `settled` is the value after both ways.

* bounds: `Portable`, `depth`, `elementCount`;
* `settled`, and `latest` for the entries of a map: `settledEntries_eq`, `entryElements_eq`;
* a value of plain data is left as it is: `settled_of_plain`.
-/

namespace ScriptHost.HostValue

def isCallable : HostValue → Bool
  | callable _ => true
  | _ => false

/-- A later entry has the same key. -/
def isRepeated (key : HostValue) (rest : List (HostValue × HostValue)) : Bool :=
  rest.any fun e => e.1.asString? == key.asString?

/-- The last entry of each key. -/
def latest : List (HostValue × HostValue) → List (HostValue × HostValue)
  | [] => []
  | e :: rest => if isRepeated e.1 rest then latest rest else e :: latest rest

/-! ## Bounds -/

mutual

/-- The value has a script form: there are no foreign values and no sentinels in it, all keys are
strings, and no array is longer than one of the script can be. -/
def Portable : HostValue → Prop
  | array items => items.length ≤ Script.indexLimit ∧ AllPortable items
  | map entries => PortableEntries entries
  | complexObject _ | foreign _ => False
  | _ => True

/-- All of these are `Portable`. -/
def AllPortable : List HostValue → Prop
  | [] => True
  | v :: rest => Portable v ∧ AllPortable rest

/-- The keys of these entries are strings, and the values are `Portable`. -/
def PortableEntries : List (HostValue × HostValue) → Prop
  | [] => True
  | (key, v) :: rest => (∃ name, key = string name) ∧ Portable v ∧ PortableEntries rest

end

mutual

/-- The depth of the deepest value in the value; the value itself has none. -/
def depth : HostValue → Nat
  | array items => itemDepth items
  | map entries => entryDepth entries
  | _ => 0

/-- The depth of the deepest value under an array of these. -/
def itemDepth : List HostValue → Nat
  | [] => 0
  | v :: rest => max (depth v + 1) (itemDepth rest)

/-- The depth of the deepest value under a map of these. -/
def entryDepth : List (HostValue × HostValue) → Nat
  | [] => 0
  | (_, v) :: rest => max (depth v + 1) (entryDepth rest)

end

mutual

/-- How many items and distinct keys there are in all arrays and maps; a value that a later entry
replaces does not count. -/
def elementCount : HostValue → Nat
  | array items => items.length + itemElements items
  | map entries => entryElements entries
  | _ => 0

/-- The sum of the element counts of the items. -/
def itemElements : List HostValue → Nat
  | [] => 0
  | v :: rest => elementCount v + itemElements rest

/-- One for each distinct key, and the element counts of their last values. -/
def entryElements : List (HostValue × HostValue) → Nat
  | [] => 0
  | (key, v) :: rest =>
    if isRepeated key rest then entryElements rest else 1 + elementCount v + entryElements rest

end

/-! ## After both ways -/

mutual

/-- The value after it has crossed to the script and back. -/
def settled (standIn : HostValue) : HostValue → HostValue
  | array items => array (settledItems standIn items)
  | map entries => map (settledEntries standIn entries)
  | callable _ => standIn
  | v => v

/-- These after they have crossed to the script and back. -/
def settledItems (standIn : HostValue) : List HostValue → List HostValue
  | [] => []
  | v :: rest => settled standIn v :: settledItems standIn rest

/-- The entries of a map after both ways: the last one of each key,
unless its value is a function. -/
def settledEntries (standIn : HostValue) :
    List (HostValue × HostValue) → List (HostValue × HostValue)
  | [] => []
  | (key, v) :: rest =>
    if isRepeated key rest || v.isCallable then settledEntries standIn rest
    else (key, settled standIn v) :: settledEntries standIn rest

end

theorem settledEntries_eq (standIn : HostValue) (entries : List (HostValue × HostValue)) :
    settledEntries standIn entries =
      ((latest entries).filter fun e => !e.2.isCallable).map fun e =>
        (e.1, settled standIn e.2) := by
  induction entries with
  | nil => rfl
  | cons e rest ih =>
    obtain ⟨key, v⟩ := e
    rw [settledEntries, latest]
    cases hrepeated : isRepeated key rest <;>
      cases hcallable : v.isCallable <;> simp [ih, hcallable]

theorem entryElements_eq (entries : List (HostValue × HostValue)) :
    entryElements entries =
      (latest entries).length + itemElements ((latest entries).map Prod.snd) := by
  induction entries with
  | nil => rfl
  | cons e rest ih =>
    obtain ⟨key, v⟩ := e
    rw [entryElements, latest]
    cases hrepeated : isRepeated key rest
    · simp only [Bool.false_eq_true, if_false, List.length_cons, List.map_cons, itemElements, ih]
      omega
    · simpa using ih

theorem itemElements_perm {vs ws : List HostValue} (h : vs.Perm ws) :
    itemElements vs = itemElements ws := by
  induction h with
  | nil => rfl
  | cons v _ ih => rw [itemElements, itemElements, ih]
  | swap v w rest =>
    simp only [itemElements]
    omega
  | trans _ _ ih ih' => exact ih.trans ih'

theorem latest_subset {entries : List (HostValue × HostValue)} {e : HostValue × HostValue}
    (h : e ∈ latest entries) : e ∈ entries := by
  induction entries with
  | nil => cases h
  | cons f rest ih =>
    rw [latest] at h
    split at h
    · exact List.mem_cons_of_mem _ (ih h)
    · rcases List.mem_cons.mp h with rfl | h
      · exact List.mem_cons_self
      · exact List.mem_cons_of_mem _ (ih h)

/-! ## Plain data -/

theorem isRepeated_eq_false {key : HostValue} {rest : List (HostValue × HostValue)}
    (h : key.asString? ∉ rest.map fun e => e.1.asString?) : isRepeated key rest = false := by
  rw [← Bool.not_eq_true, isRepeated, List.any_eq_true]
  rintro ⟨e, he, heq⟩
  exact h (List.mem_map.mpr ⟨e, he, eq_of_beq heq⟩)

theorem isCallable_of_plain {v : HostValue} (h : v.Plain) : v.isCallable = false := by
  cases v with
  | callable f => exact h.elim
  | _ => rfl

mutual

/-- **Plain data comes back as it was.** -/
theorem settled_of_plain (standIn : HostValue) {v : HostValue} (h : v.Plain) :
    settled standIn v = v := by
  match v with
  | null | boolean _ | number _ | string _ => rfl
  | array items => rw [settled, settledItems_of_plain standIn h]
  | map entries => rw [settled, settledEntries_of_plain standIn h.2.1 h.2.2]

theorem settledItems_of_plain (standIn : HostValue) {vs : List HostValue} (h : AllPlain vs) :
    settledItems standIn vs = vs := by
  match vs with
  | [] => rfl
  | v :: rest => rw [settledItems, settled_of_plain standIn h.1, settledItems_of_plain standIn h.2]

theorem settledEntries_of_plain (standIn : HostValue) {entries : List (HostValue × HostValue)}
    (hnodup : (entries.map fun e => e.1.asString?).Nodup) (h : PlainEntries entries) :
    settledEntries standIn entries = entries := by
  match entries with
  | [] => rfl
  | (key, v) :: rest =>
    obtain ⟨hkey, hnodup⟩ := List.nodup_cons.mp hnodup
    simp only [settledEntries, isRepeated_eq_false hkey, isCallable_of_plain h.1,
      settled_of_plain standIn h.1, settledEntries_of_plain standIn hnodup h.2, Bool.or_self,
      Bool.false_eq_true, if_false]

end

end ScriptHost.HostValue
