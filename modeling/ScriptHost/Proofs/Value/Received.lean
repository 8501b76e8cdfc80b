import ScriptHost.Value.Basic

/-!
# Values as a conversion puts them together

What the host receives is data, and where the script had something without a host form, a value that
stands in for it.  Such a value may hold anything, so it is a leaf: `Received` keeps it apart from
what was read, which is null, truth values, numbers, strings, arrays and maps with strings for keys.

* `value`: the host value;
* `depth`, `elements`: how deep it nests, and how many elements and entries it has in all;
* `All`: what holds of all its nodes.
-/

namespace ScriptHost

/-- A host value as it was received. -/
inductive Received
  | null
  | boolean (b : Bool)
  | number (x : Float)
  | string (s : String)
  | array (items : List Received)
  | map (entries : List (String × Received))
  /-- A value that stands in for something. -/
  | standIn (v : HostValue)

namespace Received

mutual

def value : Received → HostValue
  | null => .null
  | boolean b => .boolean b
  | number x => .number x
  | string s => .string s
  | array items => .array (itemValues items)
  | map entries => .map (entryValues entries)
  | standIn v => v

def itemValues : List Received → List HostValue
  | [] => []
  | t :: rest => t.value :: itemValues rest

def entryValues : List (String × Received) → List (HostValue × HostValue)
  | [] => []
  | (name, t) :: rest => (.string name, t.value) :: entryValues rest

end

mutual

/-- The depth of the deepest node; the value itself has none. -/
def depth : Received → Nat
  | array items => itemDepth items
  | map entries => entryDepth entries
  | _ => 0

/-- The depth of the deepest node under an array of these. -/
def itemDepth : List Received → Nat
  | [] => 0
  | t :: rest => max (depth t + 1) (itemDepth rest)

/-- The depth of the deepest node under a map of these. -/
def entryDepth : List (String × Received) → Nat
  | [] => 0
  | (_, t) :: rest => max (depth t + 1) (entryDepth rest)

end

mutual

/-- The number of elements of all arrays and entries of all maps. -/
def elements : Received → Nat
  | array items => itemElements items
  | map entries => entryElements entries
  | _ => 0

/-- The items and what they hold. -/
def itemElements : List Received → Nat
  | [] => 0
  | t :: rest => 1 + elements t + itemElements rest

/-- The entries and what they hold. -/
def entryElements : List (String × Received) → Nat
  | [] => 0
  | (_, t) :: rest => 1 + elements t + entryElements rest

end

mutual

/-- Every node is as `P` says, the value itself and all that it holds. -/
def All (P : Received → Prop) : Received → Prop
  | array items => P (array items) ∧ AllItems P items
  | map entries => P (map entries) ∧ AllEntries P entries
  | t => P t

def AllItems (P : Received → Prop) : List Received → Prop
  | [] => True
  | t :: rest => All P t ∧ AllItems P rest

def AllEntries (P : Received → Prop) : List (String × Received) → Prop
  | [] => True
  | (_, t) :: rest => All P t ∧ AllEntries P rest

end

theorem itemValues_eq_map (items : List Received) : itemValues items = items.map value := by
  induction items with
  | nil => rfl
  | cons t rest ih => rw [itemValues, ih, List.map_cons]

theorem entryValues_eq_map (entries : List (String × Received)) :
    entryValues entries = entries.map fun e => (.string e.1, e.2.value) := by
  induction entries with
  | nil => rfl
  | cons e rest ih => rw [entryValues, ih, List.map_cons]

/-- The keys of a map are pairwise distinct. -/
def KeysDistinct : Received → Prop
  | map entries => (entries.map Prod.fst).Nodup
  | _ => True

end Received

end ScriptHost
