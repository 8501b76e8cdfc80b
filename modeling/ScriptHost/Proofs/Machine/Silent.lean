import ScriptHost.Proofs.Machine.Store

/-!
# The silent machine

`Machine.silent` stores data and does nothing else: its state is a heap, which it shows as it is,
and it runs no script.  It is the least machine that stores data (`silentStore`).
-/

namespace ScriptHost

namespace Machine

/-- The members with one more, which takes the place of one with the same key. -/
def putMember (p : Member) : List Member → List Member
  | [] => [p]
  | q :: rest => if q.key = p.key then p :: rest else q :: putMember p rest

/-- The failure of an operation that is refused. -/
def refusal : Failure := ⟨.value .undefined, []⟩

/-- Looks at an object, or is refused. -/
def look {α : Type} (f : DataObject → Option α) (ref : Ref) (s : List DataObject) :
    Act (List DataObject) α :=
  match s[ref]?.bind f with
  | some a => .done s (.ok a)
  | none => .done s (.error refusal)

/-- Replaces an object, or is refused. -/
def edit (f : DataObject → Option DataObject) (ref : Ref) (s : List DataObject) :
    Act (List DataObject) Unit :=
  match s[ref]?.bind f with
  | some o => .done (s.set ref o) (.ok ())
  | none => .done s (.error refusal)

end Machine

namespace DataObject

def shape : DataObject → Shape
  | array _ => .array
  | plain _ => .plain
  | function => .function

def items? : DataObject → Option (List (Option ScriptValue))
  | array items => some items
  | _ => none

def members? : DataObject → Option (List Member)
  | plain members => some members
  | _ => none

/-- The member under a key. -/
def member? (key : Units) (o : DataObject) : Option Member :=
  o.members?.bind fun members => members.find? fun p => p.key = key

/-- The array with one more element, if there is room. -/
def append? (v : ScriptValue) : DataObject → Option DataObject
  | array items =>
    if items.length < Script.indexLimit then some (array (items ++ [some v])) else none
  | _ => none

/-- The object with a member. -/
def define? (p : Member) : DataObject → Option DataObject
  | plain members => some (plain (Machine.putMember p members))
  | _ => none

end DataObject

namespace Machine

/-- A new object behind those that there are. -/
def addObject (o : DataObject) (s : List DataObject) : Ref × List DataObject := (s.length, s ++ [o])

/-- The machine that stores data and runs nothing. -/
def silent : Machine where
  State := List DataObject
  fresh := [.plain []]
  global _ := 0
  shape s ref := (s[ref]?.map DataObject.shape).getD .plain
  isError _ _ := false
  newArray := addObject (.array [])
  newObject := addObject (.plain [])
  newError _ _ := addObject (.plain [])
  newNative _ _ := addObject .function
  describe _ _ := []
  append ref v := edit (DataObject.append? v) ref
  define ref key v := edit (DataObject.define? ⟨key, v, true⟩) ref
  defineHidden ref key v := edit (DataObject.define? ⟨key, v, false⟩) ref
  length := look fun o => o.items?.map List.length
  element ref n :=
    look (fun o => o.items?.map fun items => (items[n]?.getD none).getD .undefined) ref
  keys := look fun o => o.members?.map (List.map Member.key)
  isEnumerable ref key := look (fun o => (o.member? key).map Member.enumerable) ref
  hasOwn ref key := look (fun o => some (o.member? key).isSome) ref
  has ref key := look (fun o => some (o.member? key).isSome) ref
  get ref key := look (fun o => some (((o.member? key).map Member.value).getD .undefined)) ref
  setGlobal key v := edit (DataObject.define? ⟨key, v, true⟩) 0
  toObject v s := match v with
    | .object ref => .done s (.ok ref)
    | _ => .done s (.error refusal)
  toText _ s := .done s (.ok [])
  run _ _ s := .done s (.ok .undefined)
  call _ _ _ s := .done s (.ok .undefined)

end Machine

/-- Objects have no key twice. -/
def DataObject.Tidy : DataObject → Prop
  | plain members => (members.map Member.key).Nodup
  | _ => True

namespace Machine

theorem find?_of_nodup {members : List Member} {p : Member} (h : (members.map Member.key).Nodup)
    (hp : p ∈ members) : (members.find? fun q => q.key = p.key) = some p := by
  induction members with
  | nil => cases hp
  | cons q rest ih =>
    obtain ⟨hq, hrest⟩ := List.nodup_cons.mp h
    rcases List.mem_cons.mp hp with rfl | hp
    · simp
    · have hne : q.key ≠ p.key := fun heq => hq (heq ▸ List.mem_map_of_mem hp)
      rw [List.find?_cons, decide_eq_false hne]
      exact ih hrest hp

theorem putMember_perm {members : List Member} (h : (members.map Member.key).Nodup) (p : Member) :
    (putMember p members).Perm (p :: members.filter fun q => q.key ≠ p.key) := by
  induction members with
  | nil => exact .refl _
  | cons q rest ih =>
    obtain ⟨hq, hrest⟩ := List.nodup_cons.mp h
    rw [putMember]
    split
    · next heq =>
      have hall : ∀ r ∈ rest, r.key ≠ p.key := fun r hr hr' =>
        hq (heq.trans hr'.symm ▸ List.mem_map_of_mem hr)
      have hfilter : (q :: rest).filter (fun q => q.key ≠ p.key) = rest := by
        rw [List.filter_cons_of_neg (by simp [heq])]
        exact List.filter_eq_self.mpr (by simpa using hall)
      rw [hfilter]
    · next hne =>
      rw [List.filter_cons_of_pos (by simpa using hne)]
      exact ((ih hrest).cons q).trans (.swap p q _)

theorem nodup_of_perm {members members' : List Member} {p : Member}
    (h : (members.map Member.key).Nodup)
    (hperm : members'.Perm (p :: members.filter fun q => q.key ≠ p.key)) :
    (members'.map Member.key).Nodup := by
  rw [(hperm.map Member.key).nodup_iff, List.map_cons, List.nodup_cons]
  refine ⟨fun hp => ?_, h.sublist (List.filter_sublist.map _)⟩
  obtain ⟨q, hq, heq⟩ := List.mem_map.mp hp
  simpa [heq] using (List.mem_filter.mp hq).2

/-- What is seen of the machine: everything. -/
def silentView : DataView silent where
  tame (s : List DataObject) := ∀ (ref : Nat) o, s[ref]? = some o → o.Tidy
  heap (s : List DataObject) ref := s[ref]?
  extensible _ _ := True

variable {s : List DataObject}

theorem tame_of_forall (h : ∀ o ∈ s, o.Tidy) : silentView.tame s :=
  fun _ o ho => h o (List.mem_of_getElem? ho)

theorem adds_addObject {o : DataObject} (h : silentView.tame s) (ho : o.Tidy) :
    silentView.Adds (addObject o s).1 o s (addObject o s).2 where
  tame ref o' h' := by
    rcases List.mem_append.mp (List.mem_of_getElem? h') with hmem | hmem
    · obtain ⟨ref', href'⟩ := List.getElem?_of_mem hmem
      exact h ref' o' href'
    · obtain rfl := List.mem_singleton.mp hmem
      exact ho
  heap {ref o'} _ h' := by
    obtain ⟨hlt, -⟩ := List.getElem?_eq_some_iff.mp h'
    exact (List.getElem?_append_left hlt).trans h'
  extensible _ _ _ := trivial
  here := List.getElem?_concat_length
  extensible_here := trivial
  new := List.getElem?_eq_none (Nat.le_refl _)

theorem sets_set {ref : Ref} {o₀ o : DataObject} (h : silentView.tame s) (href : s[ref]? = some o₀)
    (ho : o.Tidy) : silentView.Sets ref o s (s.set ref o) := by
  have hhere : (s.set ref o)[ref]? = some o :=
    List.getElem?_set_self (List.getElem?_eq_some_iff.mp href).1
  refine ⟨⟨fun ref' o' h' => ?_, fun {ref' o'} hne h' => ?_, fun _ _ _ => trivial⟩, hhere, trivial⟩
  · by_cases heq : ref' = ref
    · subst heq
      rw [hhere] at h'
      cases h'
      exact ho
    · rw [List.getElem?_set_ne (Ne.symm heq)] at h'
      exact h ref' o' h'
  · exact (List.getElem?_set_ne (Ne.symm hne)).trans h'

theorem showsArray_silent {ref : Ref} {items : List (Option ScriptValue)}
    (h : s[ref]? = some (.array items)) : silent.ShowsArray s ref items where
  shape := by simp [silent, h, DataObject.shape]
  length := by simp [silent, look, h, DataObject.items?]
  element n item hitem := by simp [silent, look, h, DataObject.items?, hitem]

theorem showsPlain_silent {ref : Ref} {members : List Member} (hs : silentView.tame s)
    (h : s[ref]? = some (.plain members)) : silent.ShowsPlain s ref members := by
  have hmember {p : Member} (hp : p ∈ members) : (DataObject.plain members).member?
      p.key = some p :=
    find?_of_nodup (hs ref _ h) hp
  constructor
  case shape => simp [silent, h, DataObject.shape]
  case toObject => rfl
  case keys => simp [silent, look, h, DataObject.members?]
  case isEnumerable =>
    intro p hp
    simp [silent, look, h, hmember hp]
  case has =>
    intro p hp
    simp [silent, look, h, hmember hp]
  case get =>
    intro p hp
    simp [silent, look, h, hmember hp]

theorem shape_function_silent {ref : Ref} (h : s[ref]? = some .function) :
    silent.Shows s ref .function := by
  simp [Shows, silent, h, DataObject.shape]

theorem edit_eq {f : DataObject → Option DataObject} {ref : Ref} {o o' : DataObject}
    (ho : s[ref]? = some o) (hf : f o = some o') : edit f ref s =
      .done (s.set ref o') (.ok ()) := by
  simp [edit, ho, hf]

theorem edit_eq_refusal {f : DataObject → Option DataObject} {ref : Ref} {o : DataObject}
    (ho : s[ref]? = some o) (hf : f o = none) : edit f ref s = .done s (.error refusal) := by
  simp [edit, ho, hf]

/-- The silent machine stores data. -/
def silentStore : DataStore silent where
  toDataView := silentView
  shows {s} hs ref o ho := by
    cases o with
    | array items => exact showsArray_silent ho
    | plain members => exact showsPlain_silent hs ho
    | function => exact shape_function_silent ho
  newArray hs := adds_addObject hs trivial
  newObject hs := adds_addObject hs List.nodup_nil
  newNative _ _ hs := adds_addObject hs trivial
  append {s ref items} v hs ho _ hlt := by
    refine ⟨_, edit_eq ho ?_, sets_set hs ho trivial⟩
    rw [DataObject.append?, if_pos hlt]
  append_full {s ref items} v hs ho _ hge := by
    refine ⟨s, refusal, edit_eq_refusal ho ?_⟩
    rw [DataObject.append?, if_neg (Nat.not_lt_of_le hge)]
  define {s ref members} key v hs ho _ :=
    have hperm := putMember_perm (hs ref _ ho) ⟨key, v, true⟩
    ⟨_, _, edit_eq ho rfl, hperm, sets_set hs ho (nodup_of_perm (hs ref _ ho) hperm)⟩

end Machine

end ScriptHost
