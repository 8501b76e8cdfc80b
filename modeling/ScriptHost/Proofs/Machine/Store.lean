import ScriptHost.Proofs.Machine.Data
import ScriptHost.Script.Key

/-!
# Machines that store data

What is relied on of a machine into which data is written: a new object holds nothing yet, an
element that is appended stands at the end, and a member that is defined takes the place of one with
the same key.  None of this runs script, and none of it touches any other object.

* `DataView`: what is seen of a state; `DataView.Grows`, `DataView.Sets` for the step to another;
* `DataView.since`: what has been added between two states;
* `DataStore`: a view together with the laws.
-/

namespace ScriptHost

variable {M : Machine}

/-- What is seen of the states of a machine. -/
structure DataView (M : Machine) where
  /-- The prototypes of arrays and of plain objects have no properties under indices. -/
  tame : M.State → Prop
  heap : M.State → DataHeap
  /-- The object takes new elements and members, and its members can be replaced. -/
  extensible : M.State → Ref → Prop

namespace DataView

variable (D : DataView M)

/-- From `s` to `s'`, the objects that satisfy `keep` still hold what they held. -/
structure Grows (keep : Ref → Prop) (s s' : M.State) : Prop where
  tame : D.tame s'
  heap : ∀ {ref o}, keep ref → D.heap s ref = some o → D.heap s' ref = some o
  extensible : ∀ {ref o}, keep ref → D.heap s ref = some o → D.extensible s ref →
    D.extensible s' ref

/-- From `s` to `s'`, the object `ref` has come to hold `o`, and nothing else has changed. -/
structure Sets (ref : Ref) (o : DataObject) (s s' : M.State) : Prop
    extends D.Grows (fun other => other ≠ ref) s s' where
  here : D.heap s' ref = some o
  extensible_here : D.extensible s' ref

/-- A new object `ref` holds `o`. -/
structure Adds (ref : Ref) (o : DataObject) (s s' : M.State) : Prop
    extends D.Sets ref o s s' where
  new : D.heap s ref = none

end DataView

/-- A machine that stores data. -/
structure DataStore (M : Machine) extends DataView M where
  shows : ∀ {s}, tame s → M.ShowsData s (heap s)
  newArray : ∀ {s}, tame s →
    toDataView.Adds (M.newArray s).1 (.array []) s (M.newArray s).2
  newObject : ∀ {s}, tame s →
    toDataView.Adds (M.newObject s).1 (.plain []) s (M.newObject s).2
  newNative : ∀ {s} name id, tame s →
    toDataView.Adds (M.newNative name id s).1 .function s (M.newNative name id s).2
  /-- An element stands at the end once it has been appended. -/
  append : ∀ {s ref items} v, tame s → heap s ref = some (.array items) → extensible s ref →
    items.length < Script.indexLimit → ∃ s', M.append ref v s = .done s' (.ok ()) ∧
      toDataView.Sets ref (.array (items ++ [some v])) s s'
  /-- No array is longer than its indices reach. -/
  append_full : ∀ {s ref items} v, tame s → heap s ref = some (.array items) → extensible s ref →
    Script.indexLimit ≤ items.length → ∃ s' failure, M.append ref v s = .done s' (.error failure)
  /-- A member takes the place of one with the same key; where it stands is the machine's affair. -/
  define : ∀ {s ref members} key v, tame s → heap s ref = some (.plain members) →
    extensible s ref → ∃ s' members', M.define ref key v s = .done s' (.ok ()) ∧
      members'.Perm (⟨key, v, true⟩ :: members.filter fun p => p.key ≠ key) ∧
      toDataView.Sets ref (.plain members') s s'

namespace DataView

variable {D : DataView M} {keep keep' : Ref → Prop} {s s' s'' : M.State} {ref : Ref}
  {o : DataObject}

theorem Grows.refl (h : D.tame s) : D.Grows keep s s := ⟨h, fun _ h => h, fun _ _ h => h⟩

theorem Grows.trans (h : D.Grows keep s s') (h' : D.Grows keep s' s'') : D.Grows keep s s'' where
  tame := h'.tame
  heap hkeep ho := h'.heap hkeep (h.heap hkeep ho)
  extensible hkeep ho he := h'.extensible hkeep (h.heap hkeep ho) (h.extensible hkeep ho he)

theorem Grows.weaken (h : D.Grows keep s s') (hkeep : ∀ r, keep' r → keep r) :
    D.Grows keep' s s' where
  tame := h.tame
  heap hr := h.heap (hkeep _ hr)
  extensible hr := h.extensible (hkeep _ hr)

theorem Adds.grows (h : D.Adds ref o s s') : D.Grows (fun _ => True) s s' where
  tame := h.tame
  heap {r o'} _ ho := h.heap (fun heq => by rw [heq, h.new] at ho; cases ho) ho
  extensible {r o'} _ ho := h.extensible (fun heq => by rw [heq, h.new] at ho; cases ho) ho

theorem Grows.around (h : D.Grows (fun _ => True) s s') (hnew : D.heap s ref = none)
    (h' : D.Grows (fun other => other ≠ ref) s' s'') : D.Grows (fun _ => True) s s'' where
  tame := h'.tame
  heap {r o} _ ho := h'.heap (fun heq => by rw [heq, hnew] at ho; cases ho) (h.heap trivial ho)
  extensible {r o} _ ho he := h'.extensible (fun heq => by rw [heq, hnew] at ho; cases ho)
    (h.heap trivial ho) (h.extensible trivial ho he)

variable (D) in
/-- What has been added between two states. -/
def since (s s' : M.State) : DataHeap := fun ref =>
  if (D.heap s ref).isSome then none else D.heap s' ref

theorem since_eq_some_iff :
    D.since s s' ref = some o ↔ D.heap s ref = none ∧ D.heap s' ref = some o := by
  unfold since
  cases D.heap s ref <;> simp

theorem Grows.since (h : D.Grows keep s' s'') (hkeep : ∀ ref, D.heap s ref = none → keep ref)
    (ref : Ref) (o : DataObject) (ho : D.since s s' ref = some o) : D.since s s'' ref = some o := by
  rw [since_eq_some_iff] at ho ⊢
  exact ⟨ho.1, h.heap (hkeep ref ho.1) ho.2⟩

theorem since_of_since (h : ∀ ref, D.heap s' ref = none → D.heap s ref = none) (ref : Ref)
    (o : DataObject) (ho : D.since s' s'' ref = some o) : D.since s s'' ref = some o := by
  rw [since_eq_some_iff] at ho ⊢
  exact ⟨h ref ho.1, ho.2⟩

theorem Grows.eq_none (h : D.Grows (fun _ => True) s s') (other : Ref)
    (ho : D.heap s' other = none) : D.heap s other = none := by
  cases hother : D.heap s other with
  | none => rfl
  | some o =>
    rw [h.heap trivial hother] at ho
    cases ho

theorem Grows.eq_none_of_sets (h : D.Grows (fun other => other ≠ ref) s s')
    (href : D.heap s' ref = some o) (other : Ref) (ho : D.heap s' other = none) :
    D.heap s other = none := by
  cases hother : D.heap s other with
  | none => rfl
  | some o' =>
    by_cases heq : other = ref
    · rw [heq, href] at ho
      cases ho
    · rw [h.heap heq hother] at ho
      cases ho

end DataView

end ScriptHost
