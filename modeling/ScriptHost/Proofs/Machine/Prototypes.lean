import ScriptHost.Script.Machine
import Mathlib.Data.Fintype.Card

/-!
# Properties along the prototypes

A search for a property walks from an object to its prototype and on from there, and its fuel is the
number of objects and one more.  That is enough: the shortest way to an object meets no object
twice, and all but the last one on it have a prototype, so they are in the store.

* `Heap.behind`: how prototypes follow one another; `Heap.OnChain`, `Heap.WithoutProxies`;
* `Heap.HasProperty`: what has a property, of its own or from a prototype;
* `searchFrom_congr`: nothing else matters; `searchFrom_eq_search`: more fuel would change nothing;
* `search_eq_found_iff`: **the search finds a property exactly if there is one**,
  unless a proxy is met;
* `toObject_object`, `has_of_withoutProxies`, `get_of_not_hasProperty`:
  what that is for the machine.
-/

namespace ScriptHost.Script

theorem Object.closes?_eq_none {o : Object}
    (hkind : ∀ element length, o.kind ≠ .typedArray element length)
    (k : Key) : o.closes? k = none := by
  unfold closes?
  split
  · exact absurd ‹_› (hkind _ _)
  · rfl

/-- A search for the key goes the same way at both objects. -/
structure Object.AlikeFor (k : Key) (o o' : Object) : Prop where
  kind : o.kind = o'.kind
  proto : o.proto = o'.proto
  find : o.find? k = o'.find? k

theorem Object.AlikeFor.of_eq {k : Key} {o o' : Object} (h : o = o') : o.AlikeFor k o' := by
  subst h
  exact ⟨rfl, rfl, rfl⟩

theorem Object.AlikeFor.closes {k : Key} {o o' : Object} (h : o.AlikeFor k o') :
    o.closes? k = o'.closes? k := by
  rw [closes?, closes?, h.kind]

namespace Heap

/-- The object that stands `n` prototypes behind another one. -/
def behind (h : Heap) : Nat → Ref → Option Ref
  | 0, ref => some ref
  | n + 1, ref => (h.lookUp ref).proto.bind (h.behind n)

/-- One object is the other, or one of its prototypes. -/
def OnChain (h : Heap) (ref last : Ref) : Prop := ∃ n, h.behind n ref = some last

/-- The object has the property, of its own or from a prototype.  A typed array has no numeric keys
from its prototypes. -/
inductive HasProperty (h : Heap) (k : Key) : Ref → Prop
  | own {ref : Ref} {p : Property} (hfind : (h.lookUp ref).find? k = some p) : HasProperty h k ref
  | inherited {ref proto : Ref} (hopen : (h.lookUp ref).closes? k = none)
      (hproto : (h.lookUp ref).proto = some proto) (hrest : HasProperty h k proto) :
      HasProperty h k ref

/-- Neither the object nor any of its prototypes is a proxy. -/
def WithoutProxies (h : Heap) (ref : Ref) : Prop :=
  ∀ last, h.OnChain ref last → ∀ ends calls constructs,
    (h.lookUp last).kind ≠ .proxy ends calls constructs

variable {h : Heap} {k : Key} {ref last proto : Ref}

theorem OnChain.refl (h : Heap) (ref : Ref) : h.OnChain ref ref := ⟨0, rfl⟩

theorem OnChain.step (hproto : (h.lookUp ref).proto = some proto) (hrest : h.OnChain proto last) :
    h.OnChain ref last := by
  obtain ⟨n, hn⟩ := hrest
  exact ⟨n + 1, by simpa [behind, hproto] using hn⟩

/-- The end of a chain is the object itself or stands behind its prototype. -/
theorem OnChain.cases_head (hchain : h.OnChain ref last) :
    last = ref ∨ ∃ proto, (h.lookUp ref).proto = some proto ∧ h.OnChain proto last := by
  obtain ⟨n, hn⟩ := hchain
  cases n with
  | zero => exact .inl (Option.some.inj hn).symm
  | succ n =>
    obtain ⟨proto, hproto, hrest⟩ := Option.bind_eq_some_iff.mp hn
    exact .inr ⟨proto, hproto, n, hrest⟩

theorem behind_add (h : Heap) (m n : Nat) (ref : Ref) :
    h.behind (m + n) ref = (h.behind m ref).bind (h.behind n) := by
  induction m generalizing ref with
  | zero => simp [behind]
  | succ m ih =>
    rw [Nat.succ_add, behind, behind, Option.bind_assoc]
    exact congrArg _ (funext ih)

theorem lt_size_of_proto (hproto : (h.lookUp ref).proto = some proto) : ref < h.objects.size := by
  by_contra hout
  have hempty : h.lookUp ref = default := by
    simp [lookUp, Array.getD_eq_getD_getElem?, Array.getElem?_eq_none (Nat.le_of_not_lt hout)]
  rw [hempty] at hproto
  cases hproto

/-- No more prototypes need be passed on the way than there are objects. -/
theorem exists_behind_le (hchain : h.OnChain ref last) :
    ∃ n ≤ h.objects.size, h.behind n ref = some last := by
  classical
  let n := Nat.find hchain
  have hn : h.behind n ref = some last := Nat.find_spec hchain
  -- each object before the last one, with the rest of the way
  have hway (i : Fin n) : ∃ r, h.behind i ref = some r ∧ h.behind (n - i) r = some last := by
    have hsplit : h.behind (i + (n - i)) ref = some last := by
      rw [Nat.add_sub_cancel' i.isLt.le]
      exact hn
    rw [behind_add] at hsplit
    exact Option.bind_eq_some_iff.mp hsplit
  choose passed hbefore hrest using hway
  have hin (i : Fin n) : passed i < h.objects.size := by
    have hnext := hrest i
    rw [show n - i = (n - i - 1) + 1 by omega] at hnext
    obtain ⟨proto, hproto, -⟩ := Option.bind_eq_some_iff.mp hnext
    exact lt_size_of_proto hproto
  -- the same object twice would make for a shorter way
  have hshort {i j : Fin n} (hij : i < j) : passed i ≠ passed j := by
    intro hsame
    have hjump : h.behind (i + (n - j)) ref = some last := by
      rw [behind_add, hbefore i, hsame]
      exact hrest j
    have hmin := Nat.find_min' hchain hjump
    omega
  refine ⟨n, ?_, hn⟩
  have hinj : Function.Injective fun i : Fin n => (⟨passed i, hin i⟩ : Fin h.objects.size) := by
    intro i j hsame
    have hsame : passed i = passed j := congrArg Fin.val hsame
    rcases lt_trichotomy i j with hij | hij | hij
    · exact absurd hsame (hshort hij)
    · exact hij
    · exact absurd hsame.symm (hshort hij)
  simpa using Fintype.card_le_of_injective _ hinj

/-! ## Searching -/

theorem WithoutProxies.of_proto (hplain : h.WithoutProxies ref)
    (hproto : (h.lookUp ref).proto = some proto) : h.WithoutProxies proto :=
  fun last hchain => hplain last (hchain.step hproto)

theorem searchFrom_succ (hplain : h.WithoutProxies ref) (fuel : Nat) :
    h.searchFrom k (fuel + 1) ref =
      match (h.lookUp ref).find? k with
      | some p => .found p
      | none =>
        match (h.lookUp ref).closes? k, (h.lookUp ref).proto with
        | some element, _ => .outside ref element
        | none, some proto => h.searchFrom k fuel proto
        | none, none => .absent := by
  rw [searchFrom]
  split
  · exact absurd ‹_› (hplain ref (.refl h ref) _ _ _)
  · rfl

/-- What a search finds is there. -/
theorem hasProperty_of_searchFrom {fuel : Nat} {p : Property} (hplain : h.WithoutProxies ref)
    (hfound : h.searchFrom k fuel ref = .found p) : h.HasProperty k ref := by
  induction fuel generalizing ref with
  | zero => cases hfound
  | succ fuel ih =>
    rw [searchFrom_succ hplain] at hfound
    cases hfind : (h.lookUp ref).find? k with
    | some p => exact .own hfind
    | none =>
      cases hcloses : (h.lookUp ref).closes? k with
      | some element => simp [hfind, hcloses] at hfound
      | none =>
        cases hproto : (h.lookUp ref).proto with
        | none => simp [hfind, hcloses, hproto] at hfound
        | some proto =>
          simp only [hfind, hcloses, hproto] at hfound
          exact .inherited hcloses hproto (ih (hplain.of_proto hproto) hfound)

/-- What is there is found with fuel enough. -/
theorem HasProperty.exists_searchFrom (hplain : h.WithoutProxies ref) (hhas : h.HasProperty k ref) :
    ∃ n p, ∀ more, h.searchFrom k (n + more + 1) ref = .found p := by
  induction hhas with
  | @own ref p hfind => exact ⟨0, p, fun more => by rw [searchFrom_succ hplain, hfind]⟩
  | @inherited ref proto hopen hproto hrest ih =>
    cases hfind : (h.lookUp ref).find? k with
    | some p => exact ⟨0, p, fun more => by rw [searchFrom_succ hplain, hfind]⟩
    | none =>
      obtain ⟨n, p, hfound⟩ := ih (hplain.of_proto hproto)
      refine ⟨n + 1, p, fun more => ?_⟩
      rw [searchFrom_succ hplain, hfind, hopen, hproto]
      exact Nat.add_right_comm n 1 more ▸ hfound more

/-- No search along these prototypes ends at a proxy. -/
theorem searchFrom_ne_proxy (hplain : h.WithoutProxies ref) (fuel : Nat) (proxy : Ref) :
    h.searchFrom k fuel ref ≠ .proxy proxy := by
  induction fuel generalizing ref with
  | zero => exact Search.noConfusion
  | succ fuel ih =>
    rw [searchFrom_succ hplain]
    cases (h.lookUp ref).find? k with
    | some p => exact Search.noConfusion
    | none =>
      cases (h.lookUp ref).closes? k with
      | some element => exact Search.noConfusion
      | none =>
        cases hproto : (h.lookUp ref).proto with
        | none => exact Search.noConfusion
        | some proto => exact ih (hplain.of_proto hproto)

/-- A search goes no further than to this object: it is a proxy, it has the property, or it answers
for the key alone. -/
def Stops (h : Heap) (k : Key) (ref : Ref) : Prop :=
  (∃ ends calls constructs, (h.lookUp ref).kind = .proxy ends calls constructs) ∨
    ((h.lookUp ref).find? k).isSome ∨ ((h.lookUp ref).closes? k).isSome

/-- A search ends at an object or goes on to its prototype, however much fuel there is. -/
theorem searchFrom_step (h : Heap) (k : Key) (ref : Ref) :
    (h.Stops k ref ∧ ∃ result ≠ .absent, ∀ fuel, h.searchFrom k (fuel + 1) ref = result) ∨
    ¬ h.Stops k ref ∧ ∀ fuel, h.searchFrom k (fuel + 1) ref =
      match (h.lookUp ref).proto with
      | some proto => h.searchFrom k fuel proto
      | none => .absent := by
  by_cases hproxy : ∃ ends calls constructs, (h.lookUp ref).kind = .proxy ends calls constructs
  · obtain ⟨ends, calls, constructs, hkind⟩ := hproxy
    refine .inl ⟨.inl ⟨ends, calls, constructs, hkind⟩, .proxy ref,
      Search.noConfusion, fun fuel => ?_⟩
    rw [searchFrom, hkind]
  · have hsearch (fuel : Nat) : h.searchFrom k (fuel + 1) ref =
        match (h.lookUp ref).find? k with
        | some p => .found p
        | none =>
          match (h.lookUp ref).closes? k, (h.lookUp ref).proto with
          | some element, _ => .outside ref element
          | none, some proto => h.searchFrom k fuel proto
          | none, none => .absent := by
      rw [searchFrom]
      split
      · next hkind => exact absurd ⟨_, _, _, hkind⟩ hproxy
      · rfl
    cases hfind : (h.lookUp ref).find? k with
    | some p =>
      refine .inl ⟨.inr (.inl (by rw [hfind]; rfl)), .found p, Search.noConfusion, fun fuel => ?_⟩
      rw [hsearch, hfind]
    | none =>
      cases hcloses : (h.lookUp ref).closes? k with
      | some element =>
        refine .inl ⟨.inr (.inr (by rw [hcloses]; rfl)), .outside ref element, Search.noConfusion,
          fun fuel => ?_⟩
        rw [hsearch, hfind, hcloses]
      | none =>
        refine .inr ⟨?_, fun fuel => ?_⟩
        · rintro (h | h | h)
          · exact hproxy h
          · simp [hfind] at h
          · simp [hcloses] at h
        · rw [hsearch, hfind, hcloses]
          cases (h.lookUp ref).proto <;> rfl

/-- A search comes to an object that stops it only along the prototypes. -/
theorem exists_stops_of_searchFrom {fuel : Nat} (hsearch : h.searchFrom k fuel ref ≠ .absent) :
    ∃ last, h.OnChain ref last ∧ h.Stops k last := by
  induction fuel generalizing ref with
  | zero => exact absurd rfl hsearch
  | succ fuel ih =>
    rcases h.searchFrom_step k ref with ⟨hstops, -⟩ | ⟨-, hstep⟩
    · exact ⟨ref, .refl h ref, hstops⟩
    · rw [hstep] at hsearch
      cases hproto : (h.lookUp ref).proto with
      | none =>
        rw [hproto] at hsearch
        exact absurd rfl hsearch
      | some proto =>
        rw [hproto] at hsearch
        obtain ⟨last, hchain, hstops⟩ := ih hsearch
        exact ⟨last, hchain.step hproto, hstops⟩

/-- A search that goes far enough does not come to nothing. -/
theorem searchFrom_ne_absent {n fuel : Nat} (hn : h.behind n ref = some last)
    (hstops : h.Stops k last) (hfuel : n < fuel) : h.searchFrom k fuel ref ≠ .absent := by
  induction fuel generalizing ref n with
  | zero => exact absurd hfuel (Nat.not_lt_zero n)
  | succ fuel ih =>
    rcases h.searchFrom_step k ref with ⟨-, result, hresult, hstep⟩ | ⟨hgoes, hstep⟩
    · rw [hstep]
      exact hresult
    · cases n with
      | zero =>
        obtain rfl : ref = last := Option.some.inj hn
        exact absurd hstops hgoes
      | succ n =>
        obtain ⟨proto, hproto, hrest⟩ := Option.bind_eq_some_iff.mp hn
        rw [hstep, hproto]
        exact ih hrest (Nat.lt_of_succ_lt_succ hfuel)

/-- What is found with less fuel is found with more. -/
theorem searchFrom_mono {fuel fuel' : Nat} (hle : fuel ≤ fuel')
    (hsearch : h.searchFrom k fuel ref ≠ .absent) :
    h.searchFrom k fuel' ref = h.searchFrom k fuel ref := by
  induction fuel generalizing ref fuel' with
  | zero => exact absurd rfl hsearch
  | succ fuel ih =>
    obtain ⟨more, rfl⟩ := Nat.exists_eq_add_of_le' hle
    rw [← Nat.add_assoc]
    rcases h.searchFrom_step k ref with ⟨-, result, -, hstep⟩ | ⟨-, hstep⟩
    · rw [hstep, hstep]
    · rw [hstep] at hsearch
      rw [hstep, hstep]
      cases hproto : (h.lookUp ref).proto with
      | none => rfl
      | some proto =>
        rw [hproto] at hsearch
        exact ih (Nat.le_add_left fuel more) hsearch

/-- Where the prototypes are the same, nothing else stands behind an object. -/
theorem onChain_congr {h' : Heap}
    (hsame : ∀ last, h.OnChain ref last → (h'.lookUp last).proto = (h.lookUp last).proto) :
    h'.OnChain ref last ↔ h.OnChain ref last := by
  have hbehind (n : Nat) : h'.behind n ref = h.behind n ref := by
    induction n generalizing ref with
    | zero => rfl
    | succ n ih =>
      rw [behind, behind, hsame ref (.refl h ref)]
      cases hproto : (h.lookUp ref).proto with
      | none => rfl
      | some proto => exact ih fun last hchain => hsame last (hchain.step hproto)
  exact exists_congr fun n => by rw [hbehind]

/-- A search meets nothing but the object and its prototypes. -/
theorem searchFrom_congr {h' : Heap}
    (hsame : ∀ last, h.OnChain ref last → (h'.lookUp last).AlikeFor k (h.lookUp last))
    (fuel : Nat) : h'.searchFrom k fuel ref = h.searchFrom k fuel ref := by
  induction fuel generalizing ref with
  | zero => rfl
  | succ fuel ih =>
    have halike := hsame ref (.refl h ref)
    rw [searchFrom, searchFrom, halike.kind, halike.find, halike.closes, halike.proto]
    cases (h.lookUp ref).closes? k with
    | some element => rfl
    | none =>
      cases hproto : (h.lookUp ref).proto with
      | none => rfl
      | some proto => simp only [ih fun last hchain => hsame last (hchain.step hproto)]

/-- **More fuel than there are objects changes nothing.** -/
theorem searchFrom_eq_search {fuel : Nat} (hfuel : h.objects.size < fuel) :
    h.searchFrom k fuel ref = h.search k ref := by
  by_cases hsearch : h.search k ref = .absent
  · rw [hsearch]
    by_contra hfound
    obtain ⟨last, hchain, hstops⟩ := exists_stops_of_searchFrom hfound
    obtain ⟨n, hn, hbehind⟩ := exists_behind_le hchain
    exact searchFrom_ne_absent hbehind hstops (Nat.lt_succ_of_le hn) hsearch
  · exact searchFrom_mono hfuel hsearch

/-- What an object does not have is looked for from its prototype on. -/
theorem search_eq_of_proto (hgoes : ¬ h.Stops k ref) (hproto : (h.lookUp ref).proto = some proto) :
    h.search k ref = h.search k proto := by
  have hfuel : h.objects.size < h.objects.size + 1 + 1 := Nat.lt_succ_of_lt (Nat.lt_succ_self _)
  rw [← searchFrom_eq_search hfuel]
  rcases h.searchFrom_step k ref with ⟨hstops, -⟩ | ⟨-, hstep⟩
  · exact absurd hstops hgoes
  · rw [hstep, hproto]
    rfl

/-- **The search finds a property exactly if there is one.** -/
theorem search_eq_found_iff (hplain : h.WithoutProxies ref) :
    (∃ p, h.search k ref = .found p) ↔ h.HasProperty k ref := by
  constructor
  · rintro ⟨p, hfound⟩
    exact hasProperty_of_searchFrom hplain hfound
  · intro hhas
    obtain ⟨n, p, hfound⟩ := hhas.exists_searchFrom hplain
    have henough : h.objects.size < n + h.objects.size + 1 := by omega
    exact ⟨p, (searchFrom_eq_search henough).symm.trans (hfound h.objects.size)⟩

/-- A property that is missing is missed by the search, be it at the end of the prototypes or at a
typed array. -/
theorem search_of_not_hasProperty (hplain : h.WithoutProxies ref) (hhas : ¬ h.HasProperty k ref) :
    h.search k ref = .absent ∨ ∃ array element, h.search k ref = .outside array element := by
  cases hsearch : h.search k ref with
  | found p => exact absurd ((search_eq_found_iff hplain).mp ⟨p, hsearch⟩) hhas
  | absent => exact .inl rfl
  | outside array element => exact .inr ⟨array, element, rfl⟩
  | proxy proxy => exact absurd hsearch (searchFrom_ne_proxy hplain _ proxy)

end Heap

/-! ## The machine -/

variable {α : Type} {s : State} {ref : Ref} {name : Units}

theorem drive_of_done {x : Run α} {a : α} (hx : x s = .done s (.ok a)) :
    drive x s = .done s (.ok a) := by
  unfold drive
  rw [hx, show requestLimit = (requestLimit - 1) + 1 from rfl, driveOutermost]

theorem toObject_object (ref : Ref) (s : State) :
    scriptMachine.toObject (.object ref) s = .done s (.ok ref) :=
  drive_of_done (x := Run.toObject (.object ref)) rfl

/-- What is found along the prototypes is there. -/
theorem has_of_found {k : Key} {p : Property} (hfound : s.heap.search k ref = .found p) :
    Run.has ref k s = .done s (.ok true) := by
  simp only [Run.has, Run.hasWith, Run.read, bind, Run.bind, hfound, pure, Run.pure]

/-- Without proxies, to ask for a property runs no script. -/
theorem has_of_withoutProxies (name : Units) (hplain : s.heap.WithoutProxies ref) :
    ∃ found, scriptMachine.has ref name s = .done s (.ok found) ∧
      (found = true ↔ s.heap.HasProperty (.ofUnits name) ref) := by
  by_cases hhas : s.heap.HasProperty (.ofUnits name) ref
  · obtain ⟨p, hfound⟩ := (Heap.search_eq_found_iff hplain).mpr hhas
    exact ⟨true, drive_of_done (has_of_found hfound), iff_of_true rfl hhas⟩
  · refine ⟨false, drive_of_done (x := Run.has ref (.ofUnits name)) ?_,
      iff_of_false Bool.false_ne_true hhas⟩
    rcases Heap.search_of_not_hasProperty hplain hhas with hmissing | ⟨array, element, hmissing⟩
    all_goals simp [Run.has, Run.hasWith, Run.read, bind, Run.bind, hmissing, pure, Run.pure]

theorem get_of_not_hasProperty (hplain : s.heap.WithoutProxies ref)
    (hhas : ¬ s.heap.HasProperty (.ofUnits name) ref) :
    scriptMachine.get ref name s = .done s (.ok .undefined) := by
  refine drive_of_done (x := Run.get ref (.ofUnits name)) ?_
  rcases Heap.search_of_not_hasProperty hplain hhas with hmissing | ⟨array, element, hmissing⟩
  all_goals simp [Run.get, Run.getWith, Run.read, bind, Run.bind, hmissing, pure, Run.pure]

end ScriptHost.Script
