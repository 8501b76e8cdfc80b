import Mathlib.Data.List.Basic
import Mathlib.Data.List.Induction
import ScriptHost.Script.Key

/-!
# Keys and text

Text that spells an array index in the usual way is that index, so two texts never name one key: the
key of a text gives the text back.

* `natUnits_eq`: the digits of a number, the last one taken off;
* `natUnits_digitsNumber`: digits without a leading zero are those of the number that they spell;
* `toUnits?_ofUnits`: **the key of a text gives the text back**;
* `Key.Canonical`: a key that is the key of its text.
-/

namespace ScriptHost.Script

/-! ## Digits -/

theorem natUnits_eq (n : Nat) : natUnits n =
    (if n < 10 then [] else natUnits (n / 10)) ++ [UInt16.ofNat (0x30 + n % 10)] := by
  unfold natUnits
  rw [Nat.toDigits_eq_if (by decide)]
  split
  · next hlt =>
    rw [Nat.mod_eq_of_lt hlt, List.map_singleton, Nat.toNat_digitChar_of_lt_ten hlt,
      List.nil_append]
  · rw [List.map_append, List.map_singleton, Nat.toNat_digitChar_of_lt_ten
      (Nat.mod_lt n (by decide))]

theorem digitsNumber_concat (text : Units) (u : UInt16) :
    digitsNumber (text ++ [u]) = 10 * digitsNumber text + (u.toNat - 0x30) := List.foldl_concat ..

theorem exists_digit {u : UInt16} (hu : isDigitUnit u = true) :
    ∃ d < 10, u.toNat - 0x30 = d ∧ u = UInt16.ofNat (0x30 + d) := by
  obtain ⟨hlow, hhigh⟩ := Bool.and_eq_true_iff.mp hu
  have hlow : 0x30 ≤ u.toNat := UInt16.le_iff_toNat_le.mp (of_decide_eq_true hlow)
  have hhigh : u.toNat ≤ 0x39 := UInt16.le_iff_toNat_le.mp (of_decide_eq_true hhigh)
  refine ⟨u.toNat - 0x30, by omega, rfl, ?_⟩
  rw [Nat.add_sub_cancel' hlow, UInt16.ofNat_toNat]

/-- Digits without a leading zero are those of the number that they spell. -/
theorem natUnits_digitsNumber {text : Units} (hne : text ≠ [])
    (hdigits : ∀ u ∈ text, isDigitUnit u = true) (hzero : text.head? = some 0x30 →
      text.length = 1) :
    natUnits (digitsNumber text) = text := by
  induction text using List.reverseRecOn with
  | nil => exact absurd rfl hne
  | append_singleton text u ih =>
    obtain ⟨d, hd, hvalue, rfl⟩ := exists_digit (hdigits u (by simp))
    rw [digitsNumber_concat, hvalue, natUnits_eq]
    cases text with
    | nil =>
      have hnumber : 10 * digitsNumber [] + d = d := Nat.zero_add d
      rw [hnumber, if_pos hd, Nat.mod_eq_of_lt hd]
    | cons first rest =>
      have hfirst : first ≠ 0x30 := by
        rintro rfl
        simp at hzero
      have hrest : natUnits (digitsNumber (first :: rest)) = first :: rest :=
        ih (List.cons_ne_nil _ _) (fun u hu => hdigits u (List.mem_append_left _ hu))
          fun h => absurd (Option.some.inj h) hfirst
      -- Otherwise the digits in front would be a single zero.
      have hpositive : digitsNumber (first :: rest) ≠ 0 := by
        intro h
        rw [h] at hrest
        exact hfirst (List.cons.inj hrest).1.symm
      have hquot : (10 * digitsNumber (first :: rest) + d) / 10 = digitsNumber (first :: rest) := by
        omega
      have hrem : (10 * digitsNumber (first :: rest) + d) % 10 = d := by omega
      rw [if_neg (by omega), hquot, hrem, hrest]

/-! ## Keys -/

theorem natUnits_of_arrayIndex? {text : Units} {n : Nat} (h : arrayIndex? text = some n) :
    natUnits n = text := by
  unfold arrayIndex? at h
  split at h
  · cases h
  · next first rest =>
    split at h
    · next hspelled =>
      dsimp only at h
      split at h
      · cases h
        simp only [Bool.and_eq_true, List.all_eq_true] at hspelled
        refine natUnits_digitsNumber (List.cons_ne_nil _ _) hspelled.1.2 fun hzero => ?_
        have hempty : rest.isEmpty = true := by
          simpa [Option.some.inj hzero] using hspelled.2
        rw [List.isEmpty_iff.mp hempty, List.length_singleton]
      · cases h
    · cases h

/-- **The key of a text gives the text back.** -/
theorem toUnits?_ofUnits (text : Units) : (Key.ofUnits text).toUnits? = some text := by
  unfold Key.ofUnits
  split
  · next n hindex => exact congrArg some (natUnits_of_arrayIndex? hindex)
  · rfl

theorem ofUnits_injective {text text' : Units} (h : Key.ofUnits text = Key.ofUnits text') :
    text = text' :=
  Option.some.inj ((toUnits?_ofUnits text).symm.trans ((congrArg Key.toUnits? h).trans
    (toUnits?_ofUnits text')))

/-- The key is the key of its text, if it has one. -/
def Key.Canonical (k : Key) : Prop := ∀ text, k.toUnits? = some text → Key.ofUnits text = k

theorem canonical_ofUnits (text : Units) : (Key.ofUnits text).Canonical := fun text' h => by
  rw [toUnits?_ofUnits] at h
  rw [Option.some.inj h]

end ScriptHost.Script
