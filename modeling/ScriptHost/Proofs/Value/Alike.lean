import ScriptHost.Proofs.Value.Equality

/-!
# Values that differ in the order of entries only

`Alike v w` says that `w` is `v` with the entries of maps, at any depth, in another order.  Unlike
equality it takes not-a-number for itself.  For values that equality can tell (`Plain`: no
not-a-number, no repeated keys, no host functions) the two agree: `equal_of_alike`.
-/

namespace ScriptHost.HostValue

mutual

/-- The same value up to the order of the entries of maps. -/
inductive Alike : HostValue → HostValue → Prop
  | refl (v : HostValue) : Alike v v
  | array {vs ws : List HostValue} (h : AllAlike vs ws) : Alike (array vs) (array ws)
  /-- The entries come in another order, and under each key there is an alike value. -/
  | map {es es' fs : List (HostValue × HostValue)} (hperm : es.Perm es')
    (hkeys : es'.map Prod.fst = fs.map Prod.fst)
    (hvalues : AllAlike (es'.map Prod.snd) (fs.map Prod.snd)) : Alike (map es) (map fs)

/-- Values that are alike one by one. -/
inductive AllAlike : List HostValue → List HostValue → Prop
  | nil : AllAlike [] []
  | cons {v w : HostValue} {vs ws : List HostValue} (first : Alike v w) (others : AllAlike vs ws) :
    AllAlike (v :: vs) (w :: ws)

end

/-! ## Values that equality can tell -/

mutual

/-- No number in the value is not-a-number, no key is repeated, all keys are strings, and there is
nothing but data. -/
def Plain : HostValue → Prop
  | null | boolean _ | string _ => True
  | number x => isNotNumber x = false
  | array items => AllPlain items
  | map entries => (∀ e ∈ entries, ∃ name, e.1 = string name) ∧
    (entries.map fun e => e.1.asString?).Nodup ∧ PlainEntries entries
  | complexObject _ | callable _ | foreign _ => False

/-- All of these are `Plain`. -/
def AllPlain : List HostValue → Prop
  | [] => True
  | v :: rest => Plain v ∧ AllPlain rest

/-- The values of all these entries are `Plain`. -/
def PlainEntries : List (HostValue × HostValue) → Prop
  | [] => True
  | (_, v) :: rest => Plain v ∧ PlainEntries rest

end

theorem allPlain_iff {vs : List HostValue} : AllPlain vs ↔ ∀ v ∈ vs, v.Plain := by
  induction vs with
  | nil => simp [AllPlain]
  | cons v rest ih => simp [AllPlain, ih]

theorem plainEntries_iff {entries : List (HostValue × HostValue)} :
    PlainEntries entries ↔ ∀ e ∈ entries, e.2.Plain := by
  induction entries with
  | nil => simp [PlainEntries]
  | cons e rest ih => simp [PlainEntries, ih]

/-! ## Equality -/

/-- A value that equality can tell is equal to itself. -/
theorem equal_self {v : HostValue} (h : v.Plain) : equal v v = true := by
  refine equal_self_iff.mpr fun x hx => ?_
  induction hx with
  | here => exact h
  | item hv _ ih => exact ih (allPlain_iff.mp h _ hv)
  | key he hx _ =>
    obtain ⟨name, hname⟩ := h.1 _ he
    rw [hname] at hx
    cases hx
  | value he _ ih => exact ih (plainEntries_iff.mp h.2.2 _ he)

/-- Entries are equal to others in another order if they are equal key by key. -/
theorem mapsEqual_of_perm {fs es es' : List (HostValue × HostValue)} (hperm : es.Perm es')
    (hstrings : ∀ e ∈ es, ∃ name, e.1 = string name) (hkeys : es'.map Prod.fst = fs.map Prod.fst)
    (hvalues : listsEqual (fs.map Prod.snd) (es'.map Prod.snd) = true) :
      mapsEqual fs es = true := by
  rw [listsEqual_iff_forall₂, List.forall₂_map_left_iff, List.forall₂_map_right_iff,
    List.forall₂_iff_get] at hvalues
  have hentry (i : Nat) (hi : i < fs.length) (hi' : i < es'.length) :
      entriesEqual (fs.get ⟨i, hi⟩) (es'.get ⟨i, hi'⟩) = true := by
    have hkey : (es'.get ⟨i, hi'⟩).1 = (fs.get ⟨i, hi⟩).1 := by
      have h := congrArg (fun keys => keys[i]?) hkeys
      simpa [hi, hi'] using h
    obtain ⟨name, hname⟩ := hstrings _ (hperm.mem_iff.mpr (List.get_mem es' ⟨i, hi'⟩))
    refine entriesEqual_iff.mpr ⟨?_, hvalues.2 i hi hi'⟩
    rw [← hkey, hname]
    simp [equal]
  exact mapsEqual_iff_rel.mpr (rel_coe_iff_forall₂.mpr
    ⟨es', List.forall₂_iff_get.mpr ⟨hvalues.1, hentry⟩, hperm.symm⟩)

mutual

/-- **Values that are alike are equal**, if equality can tell them. -/
theorem equal_of_alike {v w : HostValue} (h : Alike v w) (hv : v.Plain) : equal w v = true := by
  match h with
  | .refl _ => exact equal_self hv
  | .array h => exact listsEqual_of_alike h hv
  | .map hperm hkeys hvalues =>
    obtain ⟨hstrings, -, hentries⟩ := hv
    refine mapsEqual_of_perm hperm hstrings hkeys (listsEqual_of_alike hvalues ?_)
    refine allPlain_iff.mpr (List.forall_mem_map.mpr fun e he => ?_)
    exact plainEntries_iff.mp hentries e (hperm.mem_iff.mpr he)

theorem listsEqual_of_alike {vs ws : List HostValue} (h : AllAlike vs ws) (hvs : AllPlain vs) :
    listsEqual ws vs = true := by
  match h with
  | .nil => rfl
  | .cons first others =>
    simp [listsEqual, equal_of_alike first hvs.1, listsEqual_of_alike others hvs.2]

end

end ScriptHost.HostValue
