import ScriptHost.Proofs.Script.Errors
import ScriptHost.Proofs.Script.Storing

/-!
# The new machine

What is relied on of the script machine holds when it is new: nothing objects to the elements of
arrays, and the names of errors are found.  The objects of the new machine are calculated, and a
check goes over the few of them that matter.

* `Heap.allBehind`: a check of an object and of all that it inherits from;
* `Heap.isUntouched`: the check of a whole store; `isUntouched_fresh`: the new one passes it;
* `tame_fresh`, `pristine_fresh`: **the new machine stores data, and makes errors**.
-/

namespace ScriptHost.Script

variable {h : Heap} {o : Object} {ref last : Ref} {n fuel : Nat} {kind : ErrorKind}

/-! ## Checks -/

/-- The object is no proxy and no typed array, and it has nothing at any position, not even behind
the last index. -/
def Object.isBare (o : Object) : Bool :=
  match o.kind with
  | .proxy .. | .typedArray .. => false
  | _ => o.indexed.isEmpty && (o.find? (.ofNat indexLimit)).isNone

theorem Object.find?_of_isBare (hbare : o.isBare = true) (hle : n ≤ indexLimit) :
    o.find? (.ofNat n) = none := by
  unfold isBare at hbare
  split at hbare
  · cases hbare
  · cases hbare
  · obtain ⟨hindexed, hlimit⟩ := Bool.and_eq_true_iff.mp hbare
    rcases Nat.lt_or_eq_of_le hle with hlt | rfl
    · rw [Key.ofNat, if_pos hlt]
      exact Std.TreeMap.getElem?_of_isEmpty hindexed
    · exact Option.isNone_iff_eq_none.mp hlimit

namespace Heap

/-- The check passes for the object and for all that it inherits from, which are few. -/
def allBehind (h : Heap) (check : Ref → Bool) : (fuel : Nat) → Ref → Bool
  | 0, _ => false
  | fuel + 1, ref =>
    check ref &&
      match (h.lookUp ref).proto with
      | some proto => h.allBehind check fuel proto
      | none => true

/-- The name of the kind is found behind its errors. -/
def findsName (h : Heap) (kind : ErrorKind) : Bool :=
  match h.search nameKey kind.errorClass.prototype.ref with
  | .found p => p.value? = some (.string (Text.units kind.name))
  | _ => false

/-- Nobody has tampered with what arrays and errors inherit from. -/
def isUntouched (h : Heap) : Bool :=
  h.allBehind (fun ref => ref < h.objects.size && (h.lookUp ref).isBare) 2
      Intrinsic.arrayPrototype.ref &&
    [ErrorKind.error, .typeError, .referenceError, .syntaxError, .rangeError].all fun kind =>
      h.allBehind (· < h.objects.size) 3 kind.errorClass.prototype.ref && h.findsName kind

/-! ## What they say -/

theorem of_allBehind {check : Ref → Bool} (hall : h.allBehind check fuel ref = true)
    (hlast : h.OnChain ref last) : check last = true := by
  induction fuel generalizing ref with
  | zero => cases hall
  | succ fuel ih =>
    rw [allBehind, Bool.and_eq_true] at hall
    rcases hlast.cases_head with rfl | ⟨proto, hproto, hlast⟩
    · exact hall.1
    · rw [hproto] at hall
      exact ih hall.2 hlast

theorem not_stops_of_isBare (hbare : (h.lookUp ref).isBare = true) (hle : n ≤ indexLimit) :
    ¬ h.Stops (.ofNat n) ref := by
  rintro (⟨ends, calls, constructs, hkind⟩ | hfind | hcloses)
  · simp [Object.isBare, hkind] at hbare
  · rw [Object.find?_of_isBare hbare hle] at hfind
    cases hfind
  · unfold Object.closes? at hcloses
    split at hcloses
    · next hkind => simp [Object.isBare, hkind] at hbare
    · cases hcloses

theorem takesItem_of_isUntouched (huntouched : h.isUntouched = true) (hle : n ≤ indexLimit) :
    h.TakesItem n := by
  have hchecked {last : Ref} (hlast : h.OnChain Intrinsic.arrayPrototype.ref last) :
      last < h.objects.size ∧ (h.lookUp last).isBare = true := by
    simpa using of_allBehind (Bool.and_eq_true_iff.mp huntouched).1 hlast
  refine ⟨fun last hlast => (hchecked hlast).1, .inl ?_⟩
  by_contra hsearch
  obtain ⟨last, hlast, hstops⟩ := exists_stops_of_searchFrom hsearch
  exact not_stops_of_isBare (hchecked hlast).2 hle hstops

theorem namesErrors_of_isUntouched (huntouched : h.isUntouched = true) (kind : ErrorKind) :
    h.NamesErrors kind := by
  have hall := List.all_eq_true.mp (Bool.and_eq_true_iff.mp huntouched).2 kind
    (by cases kind <;> simp)
  obtain ⟨hinside, hname⟩ := Bool.and_eq_true_iff.mp hall
  refine ⟨fun last hlast => of_decide_eq_true (of_allBehind hinside hlast), ?_⟩
  unfold findsName at hname
  split at hname
  · next p hfound => exact ⟨p, hfound, of_decide_eq_true hname⟩
  · cases hname

end Heap

/-! ## The new machine -/

/-- All the objects are made and put together here, so this takes the kernel a while. -/
theorem isUntouched_fresh : freshState.heap.isUntouched = true := by decide +kernel

/-- **The new machine takes the elements of arrays.** -/
theorem tame_fresh (driver : Driver) :
    (scriptStore driver).tame (scriptMachineBy driver).fresh :=
  fun _ hle => Heap.takesItem_of_isUntouched isUntouched_fresh hle

/-- **The new machine has the names of its errors.** -/
theorem pristine_fresh (driver : Driver) :
    (errorStore driver).pristine (scriptMachineBy driver).fresh :=
  Heap.namesErrors_of_isUntouched isUntouched_fresh

end ScriptHost.Script
