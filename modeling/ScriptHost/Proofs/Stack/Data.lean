import ScriptHost.Proofs.Machine.Data
import ScriptHost.Proofs.Stack.Total
import ScriptHost.Proofs.Text.Exchange
import ScriptHost.Stack.Primitive

/-!
# Primitives on data

What the primitives do to slots that hold data.  Only appending can fail, and none of them changes
the machine but as its operation says; each lemma asks only for what is to hold afterwards.

* slots: `slot_ends`, `objectAt_ends`, `arrayAt_ends`, `slotType_ends`, `setDepth_ends`;
* machine operations that run no script: `perform_ends`;
* looking at data: `arrayLength_ends`, `getIndex_ends`, `getProp_ends`, `ownKeys_ends`;
* writing data: `append_succeedsIff`, `putProp_ends`.
-/

namespace ScriptHost

open Stacked

namespace Stack

variable {M : Machine} {κ ω ε α : Type} {handler : Handler M κ ω} {s : Session M κ ω}
  {error : EngineError → Session M κ ω → Prop}

theorem perform_ends {ok : α → Session M κ ω → Prop} {f : M.State → Act M.State α} {t : M.State}
    {r : α} (h : f s.world.machine = .done t (.ok r))
    (hok : ok r { s with world := { s.world with machine := t } }) :
    (perform f).ends handler ok error s := by
  unfold perform
  rw [ends_bind, ends_act h]
  exact hok

theorem slot_ends {ok : ScriptValue → Session M κ ω → Prop} {index : Nat} {v : ScriptValue}
    (hv : s.slots[index]? = some v) (hok : ok v s) : (slot index).ends handler ok error s := by
  unfold slot
  simp only [ends_bind, ends_read, hv]
  exact hok

theorem objectAt_ends {ok : Ref → Session M κ ω → Prop} {index : Nat} {ref : Ref}
    (hv : s.slots[index]? = some (.object ref)) (hok : ok ref s) :
    (objectAt index).ends handler ok error s := by
  unfold objectAt
  rw [ends_bind]
  exact slot_ends hv hok

theorem arrayAt_ends {ok : Ref → Session M κ ω → Prop} {index : Nat} {ref : Ref}
    (hv : s.slots[index]? = some (.object ref)) (hshape : M.shape s.world.machine ref = .array)
    (hok : ok ref s) : (arrayAt index).ends handler ok error s := by
  unfold arrayAt
  rw [ends_bind]
  refine objectAt_ends hv ?_
  simp only [ends_bind, ends_read, hshape]
  exact hok

theorem slotType_ends {ok : SlotType → Session M κ ω → Prop} {error : ε → Session M κ ω → Prop}
    {index : Nat} {v : ScriptValue} (hv : s.slots[index]? = some v)
    (hok : ok (SlotType.ofValue (M.shape s.world.machine) v) s) :
    (slotType index).ends handler ok error s := by
  unfold slotType
  simp only [ends_read, hv]
  exact hok

theorem arrayLength_ends {ok : Nat → Session M κ ω → Prop} {index : Nat} {ref : Ref}
    {items : List (Option ScriptValue)} (hv : s.slots[index]? = some (.object ref))
    (hshow : M.ShowsArray s.world.machine ref items) (hok : ok items.length s) :
    (arrayLength index).ends handler ok error s := by
  unfold arrayLength
  rw [ends_bind]
  exact arrayAt_ends hv hshow.shape (perform_ends hshow.length hok)

theorem getIndex_ends {ok : Unit → Session M κ ω → Prop} {index n : Nat} {ref : Ref}
    {items : List (Option ScriptValue)} {item : Option ScriptValue}
    (hv : s.slots[index]? = some (.object ref)) (hshow : M.ShowsArray s.world.machine ref items)
    (hitem : items[n]? = some item)
    (hok : ok () { s with slots := s.slots.push (item.getD .undefined) }) :
    (getIndex index n).ends handler ok error s := by
  unfold getIndex
  rw [ends_bind]
  refine objectAt_ends hv ?_
  rw [ends_bind]
  exact perform_ends (hshow.element n item hitem) hok

theorem getProp_ends {ok : Bool → Session M κ ω → Prop} {index : Nat} {ref : Ref}
    {members : List Member} {p : Member} (hv : s.slots[index]? = some (.object ref))
    (hshow : M.ShowsPlain s.world.machine ref members) (hp : p ∈ members)
    (hok : ok true { s with slots := s.slots.push p.value }) :
    (getProp index (Text.encodeUnits p.key)).ends handler ok error s := by
  unfold getProp
  simp only [Text.decodeUnits_encodeUnits, ends_bind]
  refine slot_ends hv (perform_ends hshow.toObject ?_)
  exact perform_ends (hshow.has p hp) (perform_ends (hshow.get p hp) hok)

theorem enumerableKeys_ends {ok : List (List UInt8) → Session M κ ω → Prop} {ref : Ref}
    (members : List Member)
    (hshow : ∀ p ∈ members, M.isEnumerable ref p.key s.world.machine =
      .done s.world.machine (.ok p.enumerable))
    (hok : ok ((members.filter Member.enumerable).map fun p => Text.encodeUnits p.key) s) :
    (enumerableKeys ref (members.map Member.key)).ends handler ok error s := by
  induction members generalizing ok with
  | nil => exact hok
  | cons p rest ih =>
    rw [List.map_cons, enumerableKeys, ends_bind]
    refine perform_ends (hshow p List.mem_cons_self) ?_
    rw [ends_bind]
    refine ih (fun q hq => hshow q (List.mem_cons_of_mem _ hq)) ?_
    cases hp : p.enumerable <;> simpa [hp] using hok

theorem ownKeys_ends {ok : List (List UInt8) → Session M κ ω → Prop} {index : Nat} {ref : Ref}
    {members : List Member} (hv : s.slots[index]? = some (.object ref))
    (hshow : M.ShowsPlain s.world.machine ref members)
    (hok : ok ((members.filter Member.enumerable).map fun p => Text.encodeUnits p.key) s) :
    (ownKeys index).ends handler ok error s := by
  unfold ownKeys
  rw [ends_bind]
  refine objectAt_ends hv ?_
  rw [ends_bind]
  exact perform_ends hshow.keys (enumerableKeys_ends members hshow.isEnumerable hok)

theorem setDepth_ends {ok : Unit → Session M κ ω → Prop} {error : ε → Session M κ ω → Prop}
    {a more : Array ScriptValue} (hp : s.poison = none) (hslots : s.slots = a ++ more)
    (hok : ok () { s with slots := a }) : (setDepth a.size).ends handler ok error s := by
  have hsize : ¬ s.slots.size < a.size := by simp [hslots]
  have htake : s.slots.take a.size = a := Array.ext' (by simp [hslots])
  unfold setDepth
  rw [ends_update]
  simpa only [hp, Option.isSome_none, Bool.false_eq_true, if_false, if_neg hsize, htake] using hok

/-! ## Writing -/

theorem takeTop_ends {ok : ScriptValue → Session M κ ω → Prop} {a : Array ScriptValue}
    {v : ScriptValue} (hslots : s.slots = a.push v) (hok : ok v { s with slots := a }) :
    takeTop.ends handler ok error s := by
  unfold takeTop
  simp only [ends_bind, ends_read, hslots, Array.back?_push, ends_update, Array.pop_push]
  exact hok

theorem append_ends {ok : Unit → Session M κ ω → Prop} {a : Array ScriptValue} {v : ScriptValue}
    {index : Nat} {ref : Ref} {t : M.State} (hslots : s.slots = a.push v)
    (hv : s.slots[index]? = some (.object ref)) (hshape : M.shape s.world.machine ref = .array)
    (happend : M.append ref v s.world.machine = .done t (.ok ()))
    (hok : ok () { s with slots := a, world := { s.world with machine := t } }) :
    (append index).ends handler ok error s := by
  unfold append
  rw [ends_bind]
  refine arrayAt_ends hv hshape ?_
  rw [ends_bind]
  exact takeTop_ends hslots (perform_ends happend hok)

/-- Appending is taking the top off and carrying out the operation. -/
theorem append_succeedsIff {ok : Unit → Session M κ ω → Prop} {accepted : Prop}
    {a : Array ScriptValue} {v : ScriptValue} {index : Nat} {ref : Ref}
    (hslots : s.slots = a.push v) (hv : s.slots[index]? = some (.object ref))
    (hshape : M.shape s.world.machine ref = .array)
    (hperform : (perform (M.append ref v)).succeedsIff handler accepted ok { s with slots := a }) :
    (append index).succeedsIff handler accepted ok s := by
  have harray : (arrayAt index).ends handler (fun r s' => ref = r ∧ s = s') (fun _ _ => False) s :=
    arrayAt_ends hv hshape ⟨rfl, rfl⟩
  have htop : takeTop.ends handler (fun u s' => v = u ∧ { s with slots := a } = s')
      (fun _ _ => False) s := takeTop_ends hslots ⟨rfl, rfl⟩
  refine succeedsIff_next harray ?_
  rintro _ _ ⟨rfl, rfl⟩
  refine succeedsIff_next htop ?_
  rintro _ _ ⟨rfl, rfl⟩
  exact hperform

/-- Defining a member is taking the top off and carrying out the operation. -/
theorem putProp_ends {ok : Unit → Session M κ ω → Prop} {a : Array ScriptValue} {v : ScriptValue}
    {index : Nat} {ref : Ref} {t : M.State} {name : String} (hslots : s.slots = a.push v)
    (hv : s.slots[index]? = some (.object ref))
    (hdefine : M.define ref (Text.units name) v s.world.machine = .done t (.ok ()))
    (hok : ok () { s with slots := a, world := { s.world with machine := t } }) :
    (putProp index (Text.utf8 name)).ends handler ok error s := by
  unfold putProp
  rw [ends_bind]
  refine objectAt_ends hv ?_
  rw [ends_bind]
  refine takeTop_ends hslots (perform_ends ?_ hok)
  rwa [Text.decodeUnits_utf8]

/-- A failure is never an answer. -/
theorem fails_raise (failure : Failure) : (raise failure : Stacked M κ ω EngineError α).Fails := by
  have hend (v : ScriptValue) : (pushValue v >>= fun _ => fail .thrown :
      Stacked M κ ω EngineError α).Fails := fails_bind fun _ => fails_fail _
  unfold raise
  refine fails_bind fun v => ?_
  dsimp only
  split
  · refine fails_bind fun isError => ?_
    split
    · exact fails_bind fun _ => hend _
    · exact hend _
  · exact hend _

theorem perform_succeedsIff_of_error {ok : α → Session M κ ω → Prop} {accepted : Prop}
    {f : M.State → Act M.State α} {t : M.State} {failure : Failure}
    (h : f s.world.machine = .done t (.error failure)) (hrejected : ¬ accepted) :
    (perform f).succeedsIff handler accepted ok s := by
  have hact : (act f : Stacked M κ ω EngineError _).ends handler
      (fun result _ => result = .error failure) (fun _ _ => False) s := (ends_act h).mpr rfl
  refine succeedsIff_next hact ?_
  rintro _ s' rfl
  exact succeedsIff_of_fails (fails_raise failure) hrejected

end Stack

end ScriptHost
