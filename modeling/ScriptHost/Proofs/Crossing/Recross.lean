import ScriptHost.Proofs.Crossing.Notes
import ScriptHost.Proofs.Crossing.RoundTrip
import ScriptHost.Proofs.Stack.Names

/-!
# A value that has crossed can cross again

What a conversion has made of a value of the script, whatever that was, is a value that can be
pushed back and is found unchanged when it is popped once more, unless something had to stand in for
a part of it (`Marshaller.recrosses`).  This takes three things that one reading has to establish
for the next: the value has a script form, it is within the bounds, and it has settled already.

* `Settled`, and `AllSettled`, `EntriesSettled` for the contents of containers;
* the recursion: `readNoted_yields`, by way of `readItemsNoted_yields` and
  `readEntriesNoted_yields`.
-/

namespace ScriptHost

open Stack Stacked Crossing Logged HostValue

variable {M : Machine} {δ α : Type} {handler : Handler M BoundFunction (HostState δ)}

/-! ## Values that have settled -/

/-- The value can cross as it is: it nests less than `levels` deep, its elements come out of a
budget of which `left` is left, and it does not change on the way. -/
structure Settled (levels budget left : Nat) (v : HostValue) : Prop where
  portable : v.Portable
  depth : v.depth < levels
  elements : v.elementCount + left ≤ budget
  unchanged : ∀ standIn, settled standIn v = v
  isCallable : v.isCallable = false

/-- The same of all the items of an array. -/
structure AllSettled (levels budget left : Nat) (vs : List HostValue) : Prop where
  portable : AllPortable vs
  depth : itemDepth vs ≤ levels
  elements : itemElements vs + left ≤ budget
  unchanged : ∀ standIn, settledItems standIn vs = vs

/-- The same of the entries of a map under some of these keys; each key has been charged. -/
structure EntriesSettled (levels budget left : Nat) (keys : List Units)
    (es : List (HostValue × HostValue)) : Prop where
  portable : PortableEntries es
  depth : entryDepth es ≤ levels
  elements : entryElements es + left ≤ keys.length + budget
  unchanged : ∀ standIn, settledEntries standIn es = es
  keys : ∀ e ∈ es, ∃ key ∈ keys, e.1.asString?.map Text.units = some key

section

variable {levels budget next left : Nat} {v : HostValue} {vs : List HostValue} {keys : List Units}
  {es : List (HostValue × HostValue)}

theorem Settled.leaf (hportable : v.Portable) (hdepth : v.depth = 0) (hcount : v.elementCount = 0)
    (hsettled : ∀ standIn, settled standIn v = v) (hcallable : v.isCallable = false) :
    Settled (levels + 1) budget budget v :=
  ⟨hportable, by omega, by omega, hsettled, hcallable⟩

theorem AllSettled.nil : AllSettled levels budget budget [] :=
  ⟨trivial, Nat.zero_le _, Nat.le_of_eq (Nat.zero_add _), fun _ => rfl⟩

theorem AllSettled.cons (h : Settled levels budget next v) (h' : AllSettled levels next left vs) :
    AllSettled levels budget left (v :: vs) where
  portable := ⟨h.portable, h'.portable⟩
  depth := by
    have := h.depth
    have := h'.depth
    rw [itemDepth]
    omega
  elements := by
    have := h.elements
    have := h'.elements
    rw [itemElements]
    omega
  unchanged standIn := by rw [settledItems, h.unchanged, h'.unchanged]

theorem AllSettled.array {count : Nat} (h : AllSettled levels next left vs)
    (hlength : vs.length = count) (hlimit : count ≤ Script.indexLimit)
    (hcharge : budget = count + next) :
    Settled (levels + 1) budget left (.array vs) where
  portable := ⟨hlength ▸ hlimit, h.portable⟩
  depth := Nat.lt_succ_of_le h.depth
  elements := by
    have := h.elements
    rw [elementCount]
    omega
  unchanged standIn := by rw [settled, h.unchanged]
  isCallable := rfl

theorem EntriesSettled.nil : EntriesSettled levels budget budget [] [] :=
  ⟨trivial, Nat.zero_le _, by simp [entryElements], fun _ => rfl, nofun⟩

/-- A key whose member was left out. -/
theorem EntriesSettled.skip (h : EntriesSettled levels budget left keys es) (key : Units) :
    EntriesSettled levels budget left (key :: keys) es where
  portable := h.portable
  depth := h.depth
  elements := by
    have := h.elements
    rw [List.length_cons]
    omega
  unchanged := h.unchanged
  keys e he := by
    obtain ⟨other, hother, heq⟩ := h.keys e he
    exact ⟨other, List.mem_cons_of_mem _ hother, heq⟩

/-- An entry under a key that is none of the others. -/
theorem EntriesSettled.cons {name : String} (h : Settled levels budget next v)
    (h' : EntriesSettled levels next left keys es) (hkey : Text.units name ∉ keys) :
    EntriesSettled levels budget left (Text.units name :: keys) ((.string name, v) :: es) := by
  have hrepeated : isRepeated (.string name) es = false := by
    refine isRepeated_eq_false fun hmem => ?_
    obtain ⟨e, he, heq⟩ := List.mem_map.mp hmem
    obtain ⟨key, hmem, hunits⟩ := h'.keys e he
    rw [heq] at hunits
    cases hunits
    exact hkey hmem
  constructor
  case portable => exact ⟨⟨name, rfl⟩, h.portable, h'.portable⟩
  case depth =>
    have := h.depth
    have := h'.depth
    rw [entryDepth]
    omega
  case elements =>
    have := h.elements
    have := h'.elements
    rw [entryElements, if_neg (by simp [hrepeated]), List.length_cons]
    omega
  case unchanged =>
    intro standIn
    rw [settledEntries, if_neg (by simp [hrepeated, h.isCallable]), h.unchanged, h'.unchanged]
  case keys =>
    rintro e (_ | ⟨_, he⟩)
    · exact ⟨_, List.mem_cons_self, rfl⟩
    · obtain ⟨key, hmem, hunits⟩ := h'.keys e he
      exact ⟨key, List.mem_cons_of_mem _ hmem, hunits⟩

theorem EntriesSettled.map (h : EntriesSettled levels next left keys es)
    (hcharge : budget = keys.length + next) : Settled (levels + 1) budget left (.map es) where
  portable := h.portable
  depth := Nat.lt_succ_of_le h.depth
  elements := by
    have := h.elements
    rw [elementCount]
    omega
  unchanged standIn := by rw [settled, h.unchanged]
  isCallable := rfl

end

/-! ## What primitives answer with -/

theorem check_eq_ok {x : Crossing M δ EngineError α} {s s' : Session M BoundFunction (HostState δ)}
    {a : α} (h : check x handler s = .ok a s') : x handler s = .ok a s' := by
  obtain ⟨result, s₁, hx, hrest⟩ := exists_of_bind_eq_ok h
  cases result with
  | error e => exact absurd hrest (fails_classify e handler s₁ a s')
  | ok b =>
    cases hrest
    exact run_of_attempt_eq_ok hx

theorem ofExcept_eq_ok {result : Except Error α} {s s' : Session M BoundFunction (HostState δ)}
    {a : α} (h : (Crossing.ofExcept result : Crossing M δ Error α) handler s = .ok a s') :
      result = .ok a := by
  cases result with
  | ok b => cases h; rfl
  | error e => cases h

theorem units_of_hostText {key : Units} {name : String}
    (h : hostText (Text.encodeUnits key) = .ok name) : Text.units name = key := by
  unfold hostText at h
  cases htext : Text.fromEngineText (Text.encodeUnits key) with
  | error e => rw [htext] at h; cases h
  | ok s =>
    rw [htext] at h
    cases h
    exact (Text.fromEngineText_encodeUnits_eq_ok_iff.mp htext).symm

/-! ## The recursion -/

/-- The note of a conversion in which nothing stands in for anything, on a machine that has no key
twice in an object and no array longer than its indices reach. -/
def ReadNote.Faithful : ReadNote → Prop
  | .replace => False
  | .keys names => names.Nodup
  | .length count => count ≤ Script.indexLimit
  | _ => True

namespace Marshaller

variable {m : Marshaller}

/-- Every value that the reader answers with has settled. -/
def YieldsSettled (handler : Handler M BoundFunction (HostState δ)) (levels : Nat)
    (reader : NotedReader M δ) : Prop :=
  ∀ slot budget, (reader slot budget).yields handler ReadNote.Faithful
    fun r => Settled levels budget r.2 r.1

theorem readItemsNoted_yields {reader : NotedReader M δ} {levels : Nat}
    (hreader : YieldsSettled handler levels reader) (array count next budget : Nat)
    (done : List HostValue) :
    (readItemsNoted reader array count next budget done).yields handler ReadNote.Faithful
      fun r => ∃ vs, r.1 = done.reverse ++ vs ∧ vs.length = count ∧
        AllSettled levels budget r.2 vs := by
  induction count generalizing next budget done with
  | zero => exact yields_pure ⟨[], by simp, rfl, .nil⟩
  | succ count ih =>
    refine yields_quietly_bind fun _ base _ _ => yields_note_bind fun _ => ?_
    refine yields_quietly_bind fun _ _ _ _ => ?_
    refine yields_bind (yields_attempt (hreader base budget)) fun item hitem => ?_
    refine yields_quietly_bind fun _ _ _ _ => yields_quietly_bind fun _ read _ hread => ?_
    have hfirst := hitem read (ofExcept_eq_ok hread)
    refine yields_mono (ih _ _ _) ?_
    rintro r ⟨vs, hr, hlength, hvs⟩
    exact ⟨read.1 :: vs, by simp [hr], by rw [List.length_cons, hlength], .cons hfirst hvs⟩

theorem readEntriesNoted_yields {reader : NotedReader M δ} {levels : Nat}
    (hreader : YieldsSettled handler levels reader) (object : Nat) (keys : List Units)
    (hkeys : keys.Nodup) (budget : Nat) (done : List (HostValue × HostValue)) :
    (readEntriesNoted reader object (keys.map Text.encodeUnits) budget done).yields handler
      ReadNote.Faithful
      fun r => ∃ es, r.1 = done.reverse ++ es ∧ EntriesSettled levels budget r.2 keys es := by
  induction keys generalizing budget done with
  | nil => exact yields_pure ⟨[], by simp, .nil⟩
  | cons key rest ih =>
    obtain ⟨hkey, hrest⟩ := List.nodup_cons.mp hkeys
    refine yields_quietly_bind fun _ base _ _ => yields_note_bind fun _ => ?_
    refine yields_quietly_bind fun _ _ _ _ => yields_quietly_bind fun _ kind _ _ => ?_
    split
    -- Nothing crosses under a key that is left out, but it stays charged: hence the inequality.
    · refine yields_quietly_bind fun _ _ _ _ => yields_mono (ih hrest _ _) ?_
      rintro r ⟨es, hr, hes⟩
      exact ⟨es, hr, hes.skip key⟩
    · refine yields_bind (yields_attempt (hreader base budget)) fun item hitem => ?_
      refine yields_quietly_bind fun _ _ _ _ => yields_quietly_bind fun _ name _ hname => ?_
      refine yields_quietly_bind fun _ read _ hread => ?_
      have hfirst := hitem read (ofExcept_eq_ok hread)
      obtain rfl := units_of_hostText (ofExcept_eq_ok hname)
      refine yields_mono (ih hrest _ _) ?_
      rintro r ⟨es, hr, hes⟩
      exact ⟨(.string name, read.1) :: es, by simp [hr], hes.cons hfirst hkey⟩

/-- **What is read has settled**, whatever it was read from. -/
theorem readNoted_yields (levels : Nat) :
    YieldsSettled handler levels (m.readNoted levels : NotedReader M δ) := by
  induction levels with
  | zero => exact fun slot budget => yields_within (yields_fails (fails_fail _))
  | succ levels ih =>
    intro slot budget
    refine yields_within (yields_quietly_bind fun _ kind _ _ => ?_)
    split
    · exact yields_fails (fails_mapError _ (fails_poison _))
    · exact yields_pure (.leaf trivial rfl rfl (fun _ => rfl) rfl)
    · exact yields_pure (.leaf trivial rfl rfl (fun _ => rfl) rfl)
    · exact yields_quietly_bind fun _ b _ _ =>
        yields_pure (.leaf trivial rfl rfl (fun _ => rfl) rfl)
    · exact yields_quietly_bind fun _ x _ _ =>
        yields_pure (.leaf trivial rfl rfl (fun _ => rfl) rfl)
    · exact yields_quietly_bind fun _ _ _ _ => yields_quietly_bind fun _ text _ _ =>
        yields_pure (.leaf trivial rfl rfl (fun _ => rfl) rfl)
    · refine yields_quietly_bind fun _ length _ _ => yields_note_bind fun hlength => ?_
      refine yields_quietly_bind fun _ left _ hcharge => yields_note_bind fun _ => ?_
      refine yields_bind (readItemsNoted_yields ih _ _ _ _ _) ?_
      rintro ⟨_, left'⟩ ⟨vs, rfl, hvs, hall⟩
      exact yields_pure (hall.array hvs hlength (eq_add_of_charge hcharge))
    · refine yields_quietly_bind fun _ keys _ hkeys => yields_note_bind fun hnodup => ?_
      refine yields_quietly_bind fun _ left _ hcharge => yields_note_bind fun _ => ?_
      obtain ⟨_, _, _, shown, _, -, -, -, rfl, -⟩ := ownKeys_eq_ok (check_eq_ok hkeys)
      refine yields_bind (readEntriesNoted_yields ih _ _ hnodup.of_map _ _) ?_
      rintro ⟨_, left'⟩ ⟨es, rfl, hall⟩
      rw [List.length_map] at hcharge
      exact yields_pure (hall.map (eq_add_of_charge hcharge))
    · exact yields_note_bind False.elim
    · exact yields_note_bind False.elim

/-- A value that was popped, with nothing standing in for anything,
has settled within the bounds. -/
theorem settled_of_pop {s s' : Session M BoundFunction (HostState δ)} {v : HostValue}
    (hpop : (m.pop : Crossing M δ Error HostValue) handler s = .ok v s')
    (hnotes : ∀ n ∈ m.popNotes handler s, n.Faithful) :
    ∃ left, Settled (m.maxDepth + 1) m.maxElements left v := by
  have hyields : (m.popNoted : Noted M δ HostValue).yields handler ReadNote.Faithful
      fun v => ∃ left, Settled (m.maxDepth + 1) m.maxElements left v := by
    refine yields_quietly_bind fun _ n _ _ => ?_
    cases n with
    | zero => exact yields_fails (fails_mapError _ (fails_poison _))
    | succ top =>
      refine yields_bind (yields_attempt (readNoted_yields _ top _)) fun value hvalue => ?_
      refine yields_quietly_bind fun _ _ _ _ => yields_quietly_bind fun _ read _ hread => ?_
      exact yields_pure ⟨read.2, hvalue read (ofExcept_eq_ok hread)⟩
  exact hyields s v s' (erased_popNoted m ▸ hpop) hnotes

/-- **A value that has crossed can cross again**, and does not change any more.  Let any value of
the script have been popped, accessors and traps included, with nothing standing in for any part of
it, and let the machine have named no key of an object twice and no array longer than its indices
reach.  Then on every machine that stores data the value is pushed, and popping what was pushed
comes to the same value but for the order of entries, with the slots as they were. -/
theorem recrosses (m : Marshaller) {s s' : Session M BoundFunction (HostState δ)} {v : HostValue}
    (hpop : (m.pop : Crossing M δ Error HostValue) handler s = .ok v s')
    (hreplace : .replace ∉ m.popNotes handler s)
    (hkeys : ∀ keys, .keys keys ∈ m.popNotes handler s → keys.Nodup)
    (hlength : ∀ count, .length count ∈ m.popNotes handler s → count ≤ Script.indexLimit)
    {M' : Machine} {δ' : Type} (handler' : Handler M' BoundFunction (HostState δ'))
    (D : DataStore M') {t : Session M' BoundFunction (HostState δ')} (ht : D.tame t.world.machine)
    (hp : t.poison = none) :
    ∃ t₁ w t₂, (m.push v) handler' t = .ok () t₁ ∧ m.pop handler' t₁ = .ok w t₂ ∧
      t₂.slots = t.slots ∧ Alike v w := by
  have hfaithful : ∀ n ∈ m.popNotes handler s, n.Faithful := by
    intro n hn
    cases n with
    | replace => exact hreplace hn
    | keys keys => exact hkeys keys hn
    | length count => exact hlength count hn
    | _ => trivial
  -- The first crossing has established all that the round trip asks for, at the same bounds.
  obtain ⟨left, hv⟩ := settled_of_pop hpop hfaithful
  have hdepth : v.depth ≤ m.maxDepth := Nat.le_of_lt_succ hv.depth
  have hcount : v.elementCount ≤ m.maxElements := by
    have := hv.elements
    omega
  obtain ⟨hiff, hpushes⟩ :=
    run_of_succeedsIff (push_succeedsIff (m := m) (D := D) handler' v hp ht)
  obtain ⟨_, t₁, hpush⟩ := hiff.mpr ⟨hv.portable, hdepth⟩
  rcases outcome_of_ends (pop_ends_of_pushes handler' D (hpushes () t₁ hpush) hdepth) with
    ⟨w, t₂, hpop', hslots, -, halike⟩ | ⟨e, t₂, -, -, hlt, -⟩
  · rw [hv.unchanged] at halike
    exact ⟨t₁, w, t₂, hpush, hpop', hslots, halike⟩
  · omega

/-- An object with a function under one key, and under the other an array with a gap. -/
def sampleHeap : List DataObject :=
  [.plain [], .plain [⟨Text.units "f", .object 3, true⟩, ⟨Text.units "k", .object 2, true⟩],
    .array [some (.string (Text.units "x")), none], .function]

/-- What is reached from the object with the function. -/
def SampleValue (v : ScriptValue) : Prop :=
  v = .object 1 ∨ v = .object 2 ∨ v = .object 3 ∨ v = .string (Text.units "x") ∨ v = .undefined

theorem sampleValue_closed (ref : Ref) (h : SampleValue (.object ref)) :
    ∃ o, Machine.silentStore.heap sampleHeap ref = some o ∧ ∀ w ∈ o.values, SampleValue w := by
  rcases h with h | h | h | h | h <;> cases h <;>
    exact ⟨_, rfl, by simp [DataObject.values, SampleValue]⟩

theorem tame_sampleHeap : Machine.silentStore.tame sampleHeap :=
  Machine.tame_of_forall (by simp [sampleHeap, DataObject.Tidy, Text.units_inj])

/-- The function is left out, and what is left crosses again; the gap has become a value by then. -/
theorem recrosses_silent :
    let m : Marshaller := ⟨none, 2, 4⟩
    let s : Session Machine.silent BoundFunction (HostState Unit) :=
      ⟨⟨sampleHeap, #[], ⟨.fresh, ()⟩⟩, #[.object 1], none⟩
    let handler : Handler Machine.silent BoundFunction (HostState Unit) := fun _ _ _ _ => .exhausted
    let v : HostValue := .map [(.string "k", .array [.string "x", .null])]
    m.pop handler s = .ok v { s with slots := #[] } ∧
    ∃ t₁ w t₂, (m.push v) handler s = .ok () t₁ ∧ m.pop handler t₁ = .ok w t₂ ∧
      t₂.slots = #[.object 1] ∧ Alike v w := by
  intro m s handler v
  have hconverts : m.converts (Machine.silentStore.heap sampleHeap) (m.standInFor s.world.host)
      (.object 1) = .ok v := by with_unfolding_all rfl
  have hgives := pop_gives handler (m := m) (s := s) (a := #[])
    (Machine.silentStore.shows tame_sampleHeap) (allData_of_closed sampleValue_closed (.inl rfl))
    rfl rfl
  -- Nothing stands in for a value here, so that no sentinel has been built either.
  have hpop : m.pop handler s = .ok v { s with slots := #[] } :=
    (hconverts ▸ hgives).eq_of_leaves (by decide +kernel)
  have hnotes : m.popNotes handler s =
    [.enter 0, .keys [[102], [107]], .charge 2, .fetch 0, .fetch 0,
      .enter 1, .length 2, .charge 2, .fetch 1, .enter 2, .leave, .fetch 1,
      .enter 2, .leave, .leave, .leave] := by decide +kernel
  exact ⟨hpop, recrosses m hpop
    (by simp [hnotes]) (by simp [hnotes]) (by simp [hnotes, Script.indexLimit])
    handler Machine.silentStore tame_sampleHeap rfl⟩

end Marshaller

end ScriptHost
