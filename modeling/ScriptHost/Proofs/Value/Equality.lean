import ScriptHost.Proofs.Value.Matching

/-!
# Equality is a partial equivalence

Equality of maps takes for each entry the first equal one that is left, and never goes back on a
choice.  That this finds a matching whenever there is one rests on equality of the entries, which in
turn may hold maps.  The property that breaks the circle is `Zigzag`, a consequence of symmetry and
transitivity that can be had by induction on one value alone (`equal_zigzag`): with it the search is
complete (`mapsEqual_iff_rel`), and then symmetry and transitivity follow one after the other.

* `HostValue.induction`: induction with what an array or a map holds at hand;
* `Agree`, `equal_iff_agree`: equality taken apart at the constructors;
* `mapsEqual_iff_rel`, `equal_symm`, `equal_trans`, `equal_self_iff`;
* `equal_partial_equivalence`, and `maps_equal_as_multisets` for maps.
-/

namespace ScriptHost

/-! ## Numbers -/

/-- The bits of a number, the same for both zeros. -/
def numberBits (x : Float) : UInt64 := if isZero x then 0 else x.toBits

theorem numbersEqual_iff {x y : Float} :
    numbersEqual x y = true ↔
      isNotNumber x = false ∧ isNotNumber y = false ∧ numberBits x = numberBits y := by
  have hzero (z : Float) : isZero z = true ↔ z.toBits.toNat % 0x8000000000000000 = 0 := by
    simp [isZero]
  have hbits : (x.toBits == y.toBits || (isZero x && isZero y)) = true ↔
      numberBits x = numberBits y := by
    rw [Bool.or_eq_true, Bool.and_eq_true, beq_iff_eq]
    unfold numberBits
    constructor
    · rintro (h | ⟨hx, hy⟩)
      · rw [h, show isZero x = isZero y by rw [isZero, isZero, h]]
      · rw [if_pos hx, if_pos hy]
    · intro h
      split at h <;> split at h
      · exact .inr ⟨‹_›, ‹_›⟩
      · next hy => exact (hy ((hzero y).mpr (by rw [← h]; rfl))).elim
      · next hx _ => exact (hx ((hzero x).mpr (by rw [h]; rfl))).elim
      · exact .inl h
  unfold numbersEqual
  rw [Bool.and_eq_true, Bool.and_eq_true, hbits, Bool.not_eq_true', Bool.not_eq_true', and_assoc]

namespace HostValue

/-- Induction on a value, for a container with the hypothesis for all that it holds. -/
@[elab_as_elim]
theorem induction {motive : HostValue → Prop} (null : motive null)
    (boolean : ∀ b, motive (boolean b)) (number : ∀ x, motive (number x))
    (string : ∀ s, motive (string s))
    (array : ∀ items, (∀ v ∈ items, motive v) → motive (array items))
    (map : ∀ entries, (∀ e ∈ entries, motive e.1 ∧ motive e.2) → motive (map entries))
    (complexObject : ∀ sentinel, motive (complexObject sentinel))
    (callable : ∀ function, motive (callable function)) (foreign : ∀ name, motive (foreign name))
    (v : HostValue) : motive v := by
  refine @HostValue.rec motive (fun items => ∀ v ∈ items, motive v)
    (fun entries => ∀ e ∈ entries, motive e.1 ∧ motive e.2) (fun e => motive e.1 ∧ motive e.2)
    null boolean number string array map complexObject callable foreign ?_ ?_ ?_ ?_ ?_ v
  · simp
  · exact fun v rest hv hrest => List.forall_mem_cons.mpr ⟨hv, hrest⟩
  · simp
  · exact fun e rest he hrest => List.forall_mem_cons.mpr ⟨he, hrest⟩
  · exact fun key item hkey hitem => ⟨hkey, hitem⟩

/-! ## Equality by constructors -/

theorem listsEqual_iff_forall₂ {vs ws : List HostValue} :
    listsEqual vs ws = true ↔ List.Forall₂ (fun v w => equal v w = true) vs ws := by
  induction vs generalizing ws with
  | nil => cases ws <;> simp [listsEqual]
  | cons v vs ih => cases ws <;> simp [listsEqual, ih]

/-- The two values have the same constructor, and what it holds is equal. -/
inductive Agree : HostValue → HostValue → Prop
  | null : Agree null null
  | boolean (b : Bool) : Agree (boolean b) (boolean b)
  | number {x y : Float} (h : numbersEqual x y = true) : Agree (number x) (number y)
  | string (s : String) : Agree (string s) (string s)
  | array {vs ws : List HostValue} (h : List.Forall₂ (fun v w => equal v w = true) vs ws) :
    Agree (array vs) (array ws)
  | map {es fs : List (HostValue × HostValue)} (h : mapsEqual es fs = true) :
      Agree (map es) (map fs)
  | complexObject (sentinel : Sentinel) : Agree (complexObject sentinel) (complexObject sentinel)
  | callable (function : CallableId) : Agree (callable function) (callable function)
  | foreign (typeName : String) : Agree (foreign typeName) (foreign typeName)

theorem equal_iff_agree {v w : HostValue} : equal v w = true ↔ Agree v w := by
  constructor
  · intro h
    unfold equal at h
    split at h
    · exact .null
    · exact eq_of_beq h ▸ .boolean _
    · exact .number h
    · exact eq_of_beq h ▸ .string _
    · exact .array (listsEqual_iff_forall₂.mp h)
    · exact .map h
    · exact eq_of_beq h ▸ .complexObject _
    · exact eq_of_beq h ▸ .callable _
    · exact eq_of_beq h ▸ .foreign _
    · cases h
  · intro h
    cases h with
    | number h | map h => exact h
    | array h => exact listsEqual_iff_forall₂.mpr h
    | _ => simp [equal]

/-- Equality of entries: of their keys, and of their values. -/
def entriesEqual (e f : HostValue × HostValue) : Bool := equal e.1 f.1 && equal e.2 f.2

theorem entriesEqual_iff {e f : HostValue × HostValue} :
    entriesEqual e f = true ↔ equal e.1 f.1 = true ∧ equal e.2 f.2 = true := Bool.and_eq_true_iff

theorem mapsEqual_cons (e : HostValue × HostValue) (es fs : List (HostValue × HostValue)) :
    mapsEqual (e :: es) fs = match removeFirst? (entriesEqual e) fs with
      | some rest => mapsEqual es rest
      | none => false := by
  obtain ⟨key, item⟩ := e
  rw [mapsEqual]
  rfl

/-! ## The search for a matching -/

/-- Entries that are found one after the other are matched. -/
theorem rel_of_mapsEqual {es fs : List (HostValue × HostValue)} (h : mapsEqual es fs = true) :
    Multiset.Rel (fun e f => entriesEqual e f = true) es fs := by
  induction es generalizing fs with
  | nil =>
    obtain rfl := List.isEmpty_iff.mp h
    exact .zero
  | cons e es ih =>
    rw [mapsEqual_cons] at h
    split at h
    · next rest hrest =>
      obtain ⟨f, hf, hperm⟩ := removeFirst?_eq_some hrest
      rw [Multiset.coe_eq_coe.mpr hperm]
      refine .cons ?_ (ih h)
      exact hf
    · cases h

/-- Whatever shares an equal value with `a` is equal only to what `a` is equal to. -/
def Zigzag (a : HostValue) : Prop :=
  ∀ b c d, equal a b = true → equal c b = true → equal c d = true → equal a d = true

theorem entriesEqual_zigzag {e e' f f' : HostValue × HostValue} (he : Zigzag e.1 ∧ Zigzag e.2)
    (h₁ : entriesEqual e f = true) (h₂ : entriesEqual e' f = true)
    (h₃ : entriesEqual e' f' = true) :
    entriesEqual e f' = true := by
  rw [entriesEqual_iff] at h₁ h₂ h₃ ⊢
  exact ⟨he.1 _ _ _ h₁.1 h₂.1 h₃.1, he.2 _ _ _ h₁.2 h₂.2 h₃.2⟩

/-- The search finds a matching if there is one, provided that the keys and values on the left can
stand in for others that are equal to the same. -/
theorem mapsEqual_of_rel {es fs : List (HostValue × HostValue)}
    (h : Multiset.Rel (fun e f => entriesEqual e f = true) es fs)
    (hes : ∀ e ∈ es, Zigzag e.1 ∧ Zigzag e.2) : mapsEqual es fs = true := by
  induction es generalizing fs with
  | nil =>
    obtain rfl := (Multiset.coe_eq_zero fs).mp (Multiset.rel_zero_left.mp h)
    rfl
  | cons e es ih =>
    rw [← Multiset.cons_coe] at h
    obtain ⟨f, bs, hf, hbs, hfs⟩ := Multiset.rel_cons_left.mp h
    have hmem : f ∈ fs := Multiset.mem_coe.mp (hfs ▸ Multiset.mem_cons_self f bs)
    obtain ⟨rest, hrest⟩ := exists_removeFirst? hmem hf
    obtain ⟨g, hg, hperm⟩ := removeFirst?_eq_some hrest
    have hes' (e' : HostValue × HostValue) (he' : e' ∈ es) := hes e' (List.mem_cons_of_mem _ he')
    -- The search has taken `g` and not `f`, so whoever has `g` in the matching gets `f`.
    have hexchange : f ::ₘ bs = g ::ₘ rest := hfs.symm.trans (Multiset.coe_eq_coe.mpr hperm)
    have hmatched : Multiset.Rel (fun e f => entriesEqual e f = true) es rest :=
      rel_exchange hbs hexchange fun e' he' hg' => entriesEqual_zigzag (hes' e' he') hg' hg hf
    rw [mapsEqual_cons, hrest]
    exact ih hmatched hes'

/-- **Equal to a common value, equal to the same others.** -/
theorem equal_zigzag (a : HostValue) : Zigzag a := by
  induction a using HostValue.induction with
  | number x =>
    intro b c d h₁ h₂ h₃
    cases equal_iff_agree.mp h₁ with | number hab =>
    cases equal_iff_agree.mp h₂ with | number hcb =>
    cases equal_iff_agree.mp h₃ with | number hcd =>
    rw [numbersEqual_iff] at hab hcb hcd
    refine equal_iff_agree.mpr (.number (numbersEqual_iff.mpr ⟨hab.1, hcd.2.1, ?_⟩))
    rw [hab.2.2, ← hcb.2.2, hcd.2.2]
  | array items ih =>
    intro b c d h₁ h₂ h₃
    cases equal_iff_agree.mp h₁ with | array hab =>
    cases equal_iff_agree.mp h₂ with | array hcb =>
    cases equal_iff_agree.mp h₃ with | array hcd =>
    rw [List.forall₂_iff_get] at hab hcb hcd
    refine equal_iff_agree.mpr (.array (List.forall₂_iff_get.mpr ⟨?_, fun i hi hi' => ?_⟩))
    · exact hab.1.trans (hcb.1.symm.trans hcd.1)
    · exact ih _ (List.get_mem ..) _ _ _ (hab.2 i hi (hab.1 ▸ hi))
        (hcb.2 i (hcd.1 ▸ hi') (hab.1 ▸ hi)) (hcd.2 i (hcd.1 ▸ hi') hi')
  | map entries ih =>
    intro b c d h₁ h₂ h₃
    cases equal_iff_agree.mp h₁ with | map hab =>
    cases equal_iff_agree.mp h₂ with | map hcb =>
    cases equal_iff_agree.mp h₃ with | map hcd =>
    have hrel := rel_zigzag (rel_of_mapsEqual hab) (rel_of_mapsEqual hcb) (rel_of_mapsEqual hcd)
      fun e he e' f f' => entriesEqual_zigzag (ih e he)
    exact equal_iff_agree.mpr (.map (mapsEqual_of_rel hrel ih))
  | _ =>
    intro b c d h₁ h₂ h₃
    cases equal_iff_agree.mp h₁
    cases equal_iff_agree.mp h₂
    exact h₃

/-- **Maps are equal exactly if their entries can be matched.** -/
theorem mapsEqual_iff_rel {es fs : List (HostValue × HostValue)} :
    mapsEqual es fs = true ↔ Multiset.Rel (fun e f => entriesEqual e f = true) es fs :=
  ⟨rel_of_mapsEqual, fun h => mapsEqual_of_rel h fun e _ => ⟨equal_zigzag e.1, equal_zigzag e.2⟩⟩

/-! ## Symmetry and transitivity -/

theorem equal_symm {a b : HostValue} (h : equal a b = true) : equal b a = true := by
  induction a using HostValue.induction generalizing b with
  | number x =>
    cases equal_iff_agree.mp h with | number hab =>
    rw [numbersEqual_iff] at hab
    exact equal_iff_agree.mpr (.number (numbersEqual_iff.mpr ⟨hab.2.1, hab.1, hab.2.2.symm⟩))
  | array items ih =>
    cases equal_iff_agree.mp h with | array hab =>
    rw [List.forall₂_iff_get] at hab
    exact equal_iff_agree.mpr (.array (List.forall₂_iff_get.mpr
      ⟨hab.1.symm, fun i hi hi' => ih _ (List.get_mem ..) (hab.2 i hi' hi)⟩))
  | map entries ih =>
    cases equal_iff_agree.mp h with | map hab =>
    refine equal_iff_agree.mpr (.map (mapsEqual_iff_rel.mpr ?_))
    refine (Multiset.rel_flip.mpr (rel_of_mapsEqual hab)).mono fun f _ e he hef => ?_
    have hentry := entriesEqual_iff.mp hef
    exact entriesEqual_iff.mpr ⟨(ih e he).1 hentry.1, (ih e he).2 hentry.2⟩
  | _ =>
    cases equal_iff_agree.mp h
    exact h

theorem equal_trans {a b c : HostValue} (h : equal a b = true) (h' : equal b c = true) :
    equal a c = true := by
  induction a using HostValue.induction generalizing b c with
  | number x =>
    cases equal_iff_agree.mp h with | number hab =>
    cases equal_iff_agree.mp h' with | number hbc =>
    rw [numbersEqual_iff] at hab hbc
    exact equal_iff_agree.mpr (.number (numbersEqual_iff.mpr
      ⟨hab.1, hbc.2.1, hab.2.2.trans hbc.2.2⟩))
  | array items ih =>
    cases equal_iff_agree.mp h with | array hab =>
    cases equal_iff_agree.mp h' with | array hbc =>
    rw [List.forall₂_iff_get] at hab hbc
    exact equal_iff_agree.mpr (.array (List.forall₂_iff_get.mpr ⟨hab.1.trans hbc.1, fun i hi hi' =>
      ih _ (List.get_mem ..) (hab.2 i hi (hab.1 ▸ hi)) (hbc.2 i (hab.1 ▸ hi) hi')⟩))
  | map entries ih =>
    cases equal_iff_agree.mp h with | map hab =>
    cases equal_iff_agree.mp h' with | map hbc =>
    refine equal_iff_agree.mpr (.map (mapsEqual_iff_rel.mpr ?_))
    refine rel_comp (rel_of_mapsEqual hab) (rel_of_mapsEqual hbc) fun e he f g hef hfg => ?_
    have hentry := entriesEqual_iff.mp hef
    have hentry' := entriesEqual_iff.mp hfg
    exact entriesEqual_iff.mpr ⟨(ih e he).1 hentry.1 hentry'.1, (ih e he).2 hentry.2 hentry'.2⟩
  | _ =>
    cases equal_iff_agree.mp h
    exact h'

theorem entriesEqual_symm {e f : HostValue × HostValue} (h : entriesEqual e f = true) :
    entriesEqual f e = true :=
  entriesEqual_iff.mpr ((entriesEqual_iff.mp h).imp equal_symm equal_symm)

theorem entriesEqual_trans {e f g : HostValue × HostValue} (h : entriesEqual e f = true)
    (h' : entriesEqual f g = true) : entriesEqual e g = true := by
  rw [entriesEqual_iff] at h h' ⊢
  exact ⟨equal_trans h.1 h'.1, equal_trans h.2 h'.2⟩

theorem entriesEqual_comm (e f : HostValue × HostValue) : entriesEqual e f = entriesEqual f e :=
  Bool.eq_iff_iff.mpr ⟨entriesEqual_symm, entriesEqual_symm⟩

/-! ## Values that are equal to themselves -/

/-- `u` is `v` or among the values that `v` holds, at any depth and as a key or otherwise. -/
inductive Occurs (u : HostValue) : HostValue → Prop
  | here : Occurs u u
  | item {items : List HostValue} {v : HostValue} (hv : v ∈ items) (h : Occurs u v) :
    Occurs u (array items)
  | key {entries : List (HostValue × HostValue)} {e : HostValue × HostValue} (he : e ∈ entries)
    (h : Occurs u e.1) : Occurs u (map entries)
  | value {entries : List (HostValue × HostValue)} {e : HostValue × HostValue} (he : e ∈ entries)
    (h : Occurs u e.2) : Occurs u (map entries)

theorem equal_self_iff {v : HostValue} :
    equal v v = true ↔ ∀ x, Occurs (number x) v → isNotNumber x = false := by
  induction v using HostValue.induction with
  | number x =>
    constructor
    · intro h y hy
      cases hy
      exact (numbersEqual_iff.mp h).1
    · exact fun h => numbersEqual_iff.mpr ⟨h x .here, h x .here, rfl⟩
  | array items ih =>
    have hitems : equal (array items) (array items) = true ↔ ∀ v ∈ items, equal v v = true :=
      listsEqual_iff_forall₂.trans List.forall₂_same
    rw [hitems]
    constructor
    · intro h x hx
      cases hx with | item hv hx =>
      exact (ih _ hv).mp (h _ hv) x hx
    · exact fun h v hv => (ih v hv).mpr fun x hx => h x (.item hv hx)
  | map entries ih =>
    have hentries : equal (map entries) (map entries) = true ↔
        ∀ e ∈ entries, equal e.1 e.1 = true ∧ equal e.2 e.2 = true := by
      refine mapsEqual_iff_rel.trans ⟨fun h e he => ?_, fun h => ?_⟩
      · -- An entry that has a partner is equal to itself by way of it.
        obtain ⟨f, -, hef⟩ := Multiset.exists_mem_of_rel_of_mem h (Multiset.mem_coe.mpr he)
        exact entriesEqual_iff.mp (entriesEqual_trans hef (entriesEqual_symm hef))
      · exact Multiset.rel_refl_of_refl_on fun e he => entriesEqual_iff.mpr (h e he)
    rw [hentries]
    constructor
    · intro h x hx
      cases hx with
      | key he hx => exact (ih _ he).1.mp (h _ he).1 x hx
      | value he hx => exact (ih _ he).2.mp (h _ he).2 x hx
    · exact fun h e he => ⟨(ih e he).1.mpr fun x hx => h x (.key he hx),
        (ih e he).2.mpr fun x hx => h x (.value he hx)⟩
  | _ =>
    refine iff_of_true (by simp [equal]) fun x hx => ?_
    cases hx

/-- **Equality is a partial equivalence** on all values, and a value is equal to itself exactly if
not-a-number occurs nowhere in it. -/
theorem equal_partial_equivalence (a b c : HostValue) :
    (a == b → b == a) ∧ (a == b → b == c → a == c) ∧
    (a == a ↔ ∀ x, Occurs (number x) a → isNotNumber x = false) :=
  ⟨equal_symm, equal_trans, equal_self_iff⟩

/-! ## Maps as multisets -/

theorem length_eq_of_mapsEqual {es fs : List (HostValue × HostValue)} (h : mapsEqual es fs = true) :
    es.length = fs.length := Multiset.card_eq_card_of_rel (rel_of_mapsEqual h)

/-- Striking entries out and marking them come to the same,
whichever side is compared with the other. -/
theorem searchMarking_eq {marks : List Bool} {es fs : List (HostValue × HostValue)}
    (hlength : es.length = (free marks fs).length) :
    searchMarking (fun e f => entriesEqual f e) fs marks es = mapsEqual es (free marks fs) := by
  induction es generalizing marks with
  | nil => rw [List.eq_nil_of_length_eq_zero hlength.symm]; rfl
  | cons e es ih =>
    have hfirst := removeFirst?_free (entriesEqual e) marks fs
    simp only [searchMarking, mapsEqual_cons, entriesEqual_comm _ e, hfirst]
    cases hfound : (marks.zip fs).findIdx? fun (taken, f) => !taken && entriesEqual e f with
    | none => rfl
    | some i =>
      rw [hfound] at hfirst
      obtain ⟨f, -, hperm⟩ := removeFirst?_eq_some hfirst
      refine ih ?_
      rw [hperm.length_eq] at hlength
      exact Nat.succ_inj.mp hlength

theorem mapsEqual_eq_marking (es fs : List (HostValue × HostValue)) :
    mapsEqual es fs = (es.length == fs.length &&
      searchMarking (fun e f => entriesEqual f e) fs (List.replicate fs.length false) es) := by
  by_cases hlength : es.length = fs.length
  · rw [searchMarking_eq (by rw [free_replicate, hlength]), free_replicate]
    simp [hlength]
  · have hne : mapsEqual es fs = false :=
      Bool.eq_false_iff.mpr fun h => hlength (length_eq_of_mapsEqual h)
    simp [hne, hlength]

/-- **Maps are compared as multisets of entries.**  Two maps are equal exactly if there is a
bijection between the positions of their entries under which keys and values are equal.  So the
order of the entries does not matter, and equal entries are there equally often on both sides.  It
makes no difference whether the search strikes out what it has found or marks its position, or which
side it compares with the other. -/
theorem maps_equal_as_multisets (es fs : List (HostValue × HostValue)) :
    (mapsEqual es fs = true ↔ ∃ σ : Fin es.length ≃ Fin fs.length,
      ∀ i, equal es[i].1 fs[σ i].1 = true ∧ equal es[i].2 fs[σ i].2 = true) ∧
    (∀ es' fs', es.Perm es' → fs.Perm fs' → mapsEqual es' fs' = mapsEqual es fs) ∧
    (mapsEqual es fs = true → ∀ e, es.countP (entriesEqual e) = fs.countP (entriesEqual e)) ∧
    mapsEqual es fs = (es.length == fs.length &&
      searchMarking (fun e f => entriesEqual f e) fs (List.replicate fs.length false) es) := by
  refine ⟨?_, fun es' fs' hes hfs => ?_, fun h e => ?_, mapsEqual_eq_marking es fs⟩
  · rw [mapsEqual_iff_rel, rel_coe_iff_exists_equiv]
    simp only [entriesEqual_iff]
  · rw [Bool.eq_iff_iff, mapsEqual_iff_rel, mapsEqual_iff_rel, Multiset.coe_eq_coe.mpr hes,
      Multiset.coe_eq_coe.mpr hfs]
  · refine countP_eq_of_rel (rel_of_mapsEqual h) fun f g hfg => Bool.eq_iff_iff.mpr ?_
    exact ⟨fun hef => entriesEqual_trans hef hfg,
      fun heg => entriesEqual_trans heg (entriesEqual_symm hfg)⟩

end HostValue

end ScriptHost
