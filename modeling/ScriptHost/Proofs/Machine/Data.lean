import ScriptHost.Machine.Basic

/-!
# Objects that hold data

Some objects hold data and nothing else: no accessor and no proxy is among them, and nothing is
inherited under an index.  Looking at such an object runs no script and changes nothing.  A
`DataHeap` says what such objects hold; it may be a graph of any form, with sharing and cycles.

* `Machine.ShowsData`: the machine shows the objects of a heap as they are;
* `Reaches`, `AllData`, `OnCycle`: values and what they hold, step by step.
-/

namespace ScriptHost

/-- An own property with text for a key. -/
structure Member where
  key : Units
  value : ScriptValue
  enumerable : Bool

/-- What an object holds. -/
inductive DataObject
  /-- The elements in order; a hole holds none. -/
  | array (items : List (Option ScriptValue))
  /-- The members in the object's order. -/
  | plain (members : List Member)
  | function

/-- What objects hold, as far as they hold data. -/
abbrev DataHeap := Ref → Option DataObject

/-! ## What the machine shows -/

namespace Machine

variable (M : Machine) (s : M.State) (ref : Ref)

/-- An array is shown with its length and its elements, holes as the missing value. -/
structure ShowsArray (items : List (Option ScriptValue)) : Prop where
  shape : M.shape s ref = .array
  length : M.length ref s = .done s (.ok items.length)
  element : ∀ n item, items[n]? = some item →
    M.element ref n s = .done s (.ok (item.getD .undefined))

/-- Any other object is shown with its members. -/
structure ShowsPlain (members : List Member) : Prop where
  shape : M.shape s ref = .plain
  toObject : M.toObject (.object ref) s = .done s (.ok ref)
  keys : M.keys ref s = .done s (.ok (members.map Member.key))
  isEnumerable : ∀ p ∈ members, M.isEnumerable ref p.key s = .done s (.ok p.enumerable)
  has : ∀ p ∈ members, M.has ref p.key s = .done s (.ok true)
  get : ∀ p ∈ members, M.get ref p.key s = .done s (.ok p.value)

/-- The object is shown as it is, and looking at it changes nothing. -/
def Shows : DataObject → Prop
  | .array items => M.ShowsArray s ref items
  | .plain members => M.ShowsPlain s ref members
  | .function => M.shape s ref = .function

/-- All objects of the heap are shown as they are. -/
def ShowsData (heap : DataHeap) : Prop := ∀ ref o, heap ref = some o → M.Shows s ref o

end Machine

/-! ## What values hold -/

/-- The values that an object holds: its elements, or the values of its enumerable members. -/
def DataObject.values : DataObject → List ScriptValue
  | array items => items.map (·.getD .undefined)
  | plain members => (members.filter Member.enumerable).map Member.value
  | function => []

variable (heap : DataHeap)

/-- From a value one comes to another by going to what it holds, any number of times. -/
inductive Reaches : ScriptValue → ScriptValue → Prop
  | refl (v : ScriptValue) : Reaches v v
  | step {ref : Ref} {o : DataObject} {v w : ScriptValue} (ho : heap ref = some o)
    (hv : v ∈ o.values) (rest : Reaches v w) : Reaches (.object ref) w

/-- All objects that are reached hold data. -/
def AllData (v : ScriptValue) : Prop :=
  ∀ ref, Reaches heap v (.object ref) → ∃ o, heap ref = some o

/-- The value holds something from which one comes back to it. -/
def OnCycle (v : ScriptValue) : Prop :=
  ∃ ref o w, v = .object ref ∧ heap ref = some o ∧ w ∈ o.values ∧ Reaches heap w v

variable {heap}

theorem Reaches.trans {u v w : ScriptValue} (h : Reaches heap u v) (h' : Reaches heap v w) :
    Reaches heap u w := by
  induction h with
  | refl => exact h'
  | step ho hv _ ih => exact .step ho hv (ih h')

theorem AllData.object {ref : Ref} (h : AllData heap (.object ref)) : ∃ o, heap ref = some o :=
  h ref (.refl _)

theorem AllData.of_mem {ref : Ref} {o : DataObject} {v : ScriptValue}
    (h : AllData heap (.object ref)) (ho : heap ref = some o) (hv : v ∈ o.values) :
    AllData heap v := fun ref' hreach => h ref' (.step ho hv hreach)

section

variable {P : ScriptValue → Prop}
  (hP : ∀ ref, P (.object ref) → ∃ o, heap ref = some o ∧ ∀ w ∈ o.values, P w)
include hP

/-- From values that hold only such values again, no others are reached. -/
theorem reaches_of_closed {v w : ScriptValue} (hv : P v) (h : Reaches heap v w) : P w := by
  induction h with
  | refl => exact hv
  | @step ref o w _ ho hmem _ ih =>
    obtain ⟨o', ho', hvalues⟩ := hP ref hv
    obtain rfl := Option.some.inj (ho.symm.trans ho')
    exact ih (hvalues w hmem)

theorem allData_of_closed {v : ScriptValue} (hv : P v) : AllData heap v := by
  intro ref hreach
  obtain ⟨o, ho, -⟩ := hP ref (reaches_of_closed hP hv hreach)
  exact ⟨o, ho⟩

end

end ScriptHost
