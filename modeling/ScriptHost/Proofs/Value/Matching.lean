import Mathlib.Data.List.FinRange
import Mathlib.Data.List.NodupEquivFin
import Mathlib.Data.Multiset.ZeroCons
import ScriptHost.Value.Equality

/-!
# Matchings

`Multiset.Rel r as bs` says that the elements of `as` can be paired off with those of `bs`, each
with one to which it is related.  Maps are compared by looking for such a matching,
entry after entry.

* `rel_coe_iff_exists_equiv`: the same in terms of positions, as a bijection between them;
* `rel_exchange`: why the search never has to go back, the partner of one element
  can be left to another;
* `rel_comp`, `rel_zigzag`, `countP_eq_of_rel`: matchings one after the other, where something is
  known of the elements on one side only;
* `searchMarking`: the search that marks what is taken, `removeFirst?_free` for one step of it.
-/

namespace ScriptHost

variable {α β γ : Type}

/-! ## Removing -/

theorem removeFirst?_eq_some {p : α → Bool} {l rest : List α}
    (h : removeFirst? p l = some rest) : ∃ a, p a = true ∧ l.Perm (a :: rest) := by
  induction l generalizing rest with
  | nil => cases h
  | cons b l ih =>
    rw [removeFirst?] at h
    split at h
    · next hb =>
      cases h
      exact ⟨b, hb, .refl _⟩
    · obtain ⟨rest', hrest, rfl⟩ := Option.map_eq_some_iff.mp h
      obtain ⟨a, ha, hperm⟩ := ih hrest
      exact ⟨a, ha, (hperm.cons b).trans (.swap a b rest')⟩

theorem exists_removeFirst? {p : α → Bool} {l : List α} {a : α} (ha : a ∈ l)
    (hp : p a = true) : ∃ rest, removeFirst? p l = some rest := by
  induction l with
  | nil => cases ha
  | cons b l ih =>
    rw [removeFirst?]
    split
    · exact ⟨l, rfl⟩
    · next hb =>
      rcases List.mem_cons.mp ha with rfl | ha
      · exact (hb hp).elim
      · obtain ⟨rest, hrest⟩ := ih ha
        exact ⟨b :: rest, by rw [hrest]; rfl⟩

/-! ## Bijections between positions -/

theorem rel_coe_iff_forall₂ {r : α → β → Prop} {as : List α} {bs : List β} :
    Multiset.Rel r as bs ↔ ∃ cs, List.Forall₂ r as cs ∧ cs.Perm bs := by
  constructor
  · intro h
    induction as generalizing bs with
    | nil =>
      obtain rfl := (Multiset.coe_eq_zero bs).mp (Multiset.rel_zero_left.mp h)
      exact ⟨[], .nil, .refl _⟩
    | cons a as ih =>
      rw [← Multiset.cons_coe] at h
      obtain ⟨b, rest, hab, hrest, hbs⟩ := Multiset.rel_cons_left.mp h
      induction rest using Quotient.inductionOn with
      | h rest =>
        obtain ⟨cs, hcs, hperm⟩ := ih hrest
        exact ⟨b :: cs, .cons hab hcs, (hperm.cons b).trans (Multiset.coe_eq_coe.mp hbs).symm⟩
  · rintro ⟨cs, hcs, hperm⟩
    rw [← Multiset.coe_eq_coe.mpr hperm]
    clear hperm
    induction hcs with
    | nil => exact .zero
    | cons hab _ ih => exact .cons hab ih

/-- **A matching is a bijection between positions.** -/
theorem rel_coe_iff_exists_equiv {r : α → β → Prop} {as : List α} {bs : List β} :
    Multiset.Rel r as bs ↔ ∃ σ : Fin as.length ≃ Fin bs.length, ∀ i, r as[i] bs[σ i] := by
  rw [rel_coe_iff_forall₂]
  constructor
  · rintro ⟨cs, hcs, hperm⟩
    have hall : List.Forall₂ (fun b i => b = bs.get i) bs (List.finRange bs.length) :=
      List.forall₂_iff_get.mpr ⟨by simp, by simp⟩
    -- The elements of `cs` are those of `bs` at the positions `is`, and these are all positions.
    obtain ⟨is, his, hisperm⟩ := List.perm_comp_forall₂ hperm hall
    have hnodup : is.Nodup := hisperm.nodup_iff.mpr (List.nodup_finRange _)
    have hmem (i : Fin bs.length) : i ∈ is := hisperm.mem_iff.mpr (List.mem_finRange i)
    have hlength : as.length = is.length := hcs.length_eq.trans his.length_eq
    refine ⟨(finCongr hlength).trans (hnodup.getEquivOfForallMemList is hmem), fun i => ?_⟩
    have hi : i.val < cs.length := by rw [← hcs.length_eq]; exact i.isLt
    have hr := (List.forall₂_iff_get.mp hcs).2 i i.isLt hi
    rw [(List.forall₂_iff_get.mp his).2 i hi (hlength ▸ i.isLt)] at hr
    exact hr
  · rintro ⟨σ, hσ⟩
    refine ⟨((List.finRange as.length).map σ).map bs.get, ?_, ?_⟩
    · exact List.forall₂_iff_get.mpr ⟨by simp, fun i h _ => by simpa using hσ ⟨i, h⟩⟩
    · have hperm : ((List.finRange as.length).map σ).Perm (List.finRange bs.length) := by
        refine (List.perm_ext_iff_of_nodup ?_ (List.nodup_finRange _)).mpr fun i => ?_
        · exact (List.nodup_finRange _).map σ.injective
        · simpa using ⟨σ.symm i, σ.apply_symm_apply i⟩
      have hget := hperm.map bs.get
      rwa [List.map_get_finRange] at hget

/-! ## Matchings one after the other -/

/-- If the first element takes `c` and not its partner `b`, whoever had `c` can take `b`. -/
theorem rel_exchange {r : α → β → Prop} {as : Multiset α} {bs cs : Multiset β} {b c : β}
    (h : Multiset.Rel r as bs) (hbs : b ::ₘ bs = c ::ₘ cs) (hr : ∀ a ∈ as, r a c → r a b) :
    Multiset.Rel r as cs := by
  rcases Multiset.cons_eq_cons.mp hbs with ⟨-, rfl⟩ | ⟨-, ds, rfl, rfl⟩
  · exact h
  · obtain ⟨a, as, hac, has, rfl⟩ := Multiset.rel_cons_right.mp h
    exact .cons (hr a (Multiset.mem_cons_self a as) hac) has

theorem rel_comp {r : α → β → Prop} {q : β → γ → Prop} {p : α → γ → Prop} {as : Multiset α}
    {bs : Multiset β} {cs : Multiset γ} (h : Multiset.Rel r as bs) (h' : Multiset.Rel q bs cs)
    (hp : ∀ a ∈ as, ∀ b c, r a b → q b c → p a c) : Multiset.Rel p as cs := by
  induction h generalizing cs with
  | zero => rw [Multiset.rel_zero_left.mp h']; exact .zero
  | @cons a b as bs hab _ ih =>
    obtain ⟨c, cs, hbc, hcs, rfl⟩ := Multiset.rel_cons_left.mp h'
    exact .cons (hp a (Multiset.mem_cons_self a as) b c hab hbc)
      (ih hcs fun a ha => hp a (Multiset.mem_cons_of_mem ha))

theorem rel_zigzag {r : α → β → Prop} {as as' : Multiset α} {bs bs' : Multiset β}
    (h₁ : Multiset.Rel r as bs) (h₂ : Multiset.Rel r as' bs) (h₃ : Multiset.Rel r as' bs')
    (hr : ∀ a ∈ as, ∀ a' b b', r a b → r a' b → r a' b' → r a b') : Multiset.Rel r as bs' := by
  have h : Multiset.Rel (fun b b' => ∃ a', r a' b ∧ r a' b') bs bs' :=
    rel_comp (Multiset.rel_flip.mpr h₂) h₃ fun b _ a' b' hb hb' => ⟨a', hb, hb'⟩
  exact rel_comp h₁ h fun a ha b b' hab ⟨a', hb, hb'⟩ => hr a ha a' b b' hab hb hb'

/-- Matched elements satisfy a predicate equally often if partners satisfy it alike. -/
theorem countP_eq_of_rel {r : α → β → Prop} {p : α → Bool} {q : β → Bool} {as : List α}
    {bs : List β} (h : Multiset.Rel r as bs) (hr : ∀ a b, r a b → p a = q b) :
    as.countP p = bs.countP q := by
  obtain ⟨cs, hcs, hperm⟩ := rel_coe_iff_forall₂.mp h
  rw [← hperm.countP_eq]
  clear h hperm
  induction hcs with
  | nil => rfl
  | cons hab _ ih => rw [List.countP_cons, List.countP_cons, ih, hr _ _ hab]

/-! ## Marking -/

/-- The elements that are not marked. -/
def free : List Bool → List β → List β
  | taken :: marks, b :: bs => if taken then free marks bs else b :: free marks bs
  | _, _ => []

/-- Each element on the left in turn marks the first element on the right that is not marked and to
which it is related; whether each of them finds one. -/
def searchMarking (r : α → β → Bool) (bs : List β) : (marks : List Bool) → List α → Bool
  | _, [] => true
  | marks, a :: as =>
    match (marks.zip bs).findIdx? fun (taken, b) => !taken && r a b with
    | some i => searchMarking r bs (marks.set i true) as
    | none => false

theorem free_replicate (bs : List β) : free (List.replicate bs.length false) bs = bs := by
  induction bs with
  | nil => rfl
  | cons b bs ih => simp [free, List.replicate_succ, ih]

/-- Marking an element is removing it from those that are not marked. -/
theorem removeFirst?_free (p : β → Bool) (marks : List Bool) (bs : List β) :
    removeFirst? p (free marks bs) =
      ((marks.zip bs).findIdx? fun (taken, b) => !taken && p b).map fun i =>
        free (marks.set i true) bs := by
  induction marks generalizing bs with
  | nil => rfl
  | cons taken marks ih =>
    cases bs with
    | nil => rfl
    | cons b bs =>
      rw [List.zip_cons_cons, List.findIdx?_cons]
      cases taken with
      | true =>
        simp only [free, Bool.not_true, Bool.false_and, Bool.false_eq_true, if_true, if_false, ih,
          Option.map_map]
        rfl
      | false =>
        cases hb : p b with
        | true => simp [free, removeFirst?, hb]
        | false =>
          simp only [free, Bool.not_false, Bool.true_and, hb, Bool.false_eq_true, if_false,
            removeFirst?, ih, Option.map_map]
          rfl

end ScriptHost
