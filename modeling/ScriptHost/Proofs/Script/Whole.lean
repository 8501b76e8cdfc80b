import Mathlib

/-!
# Whole numbers

The numbers of scripts are floats.  Below `2 ^ 53` every natural number is one of them, is compared
as it should be, and is got back.  The library's lemmas on the bits of floats come with all of
Mathlib, and with no part of it.

* `unpack_ofNat`: the mantissa of such a float is the number, shifted to full width;
* `ofNat_le_ofNat`, `ofNat_beq_self`, `toUInt64_ofNat`.
-/

namespace ScriptHost.Script

open Float.Model Float.Model.UnpackedFloat

/-- The mantissa of a number: the number itself, with zeros behind it. -/
def mantissa (n : Nat) : Nat := n * 2 ^ (52 - n.log2)

/-- The exponent that goes with it. -/
def exponent (n : Nat) : Int := n.log2 - 52

section

variable {n : Nat}

theorem log2_le (hpos : 0 < n) (hlt : n < 2 ^ 53) : n.log2 ≤ 52 :=
  Nat.le_of_lt_succ ((Nat.log2_lt hpos.ne').mpr hlt)

theorem mantissa_pos (hpos : 0 < n) : 0 < mantissa n := Nat.mul_pos hpos (Nat.two_pow_pos _)

theorem log2_mul_two_pow (hpos : 0 < n) (k : Nat) : (n * 2 ^ k).log2 = n.log2 + k := by
  induction k with
  | zero => simp
  | succ k ih =>
    rw [Nat.pow_succ', Nat.mul_left_comm, Nat.log2_two_mul
      (Nat.mul_pos hpos (Nat.two_pow_pos k)).ne', ih, Nat.add_assoc]

theorem log2_mantissa (hpos : 0 < n) (hlt : n < 2 ^ 53) : (mantissa n).log2 = 52 := by
  have := log2_le hpos hlt
  rw [mantissa, log2_mul_two_pow hpos]
  omega

end

/-! ## Rounding -/

theorem shiftRight_exact (m k : Nat) :
    ExtendedMantissa.ofMantissaAndAccuracy (m * 2 ^ k) .exact >>> k =
      ExtendedMantissa.ofMantissaAndAccuracy m .exact := by
  induction k generalizing m with
  | zero => simp [HShiftRight.hShiftRight, Nat.repeat]
  | succ k ih =>
    show ExtendedMantissa.shiftRightOne
      (ExtendedMantissa.ofMantissaAndAccuracy (m * 2 ^ (k + 1)) .exact >>> k) = _
    rw [Nat.pow_succ', ← Nat.mul_assoc, ih]
    simp [ExtendedMantissa.shiftRightOne, ExtendedMantissa.ofMantissaAndAccuracy]

theorem targetExponent_eq (t : Int) : Format.binary64.targetExponent t = max (t - 53) (-1074) := by
  simp only [Format.targetExponent]
  rfl

/-- A mantissa of full width is kept, and so is its exponent. -/
theorem roundWithAccuracy_exact {m : Nat} {e : Int} (hlog : m.log2 = 52) (he : -1074 ≤ e)
    (hpos : 0 < m) (s : Sign) (k : Nat) :
    roundWithAccuracy Format.binary64 s (m * 2 ^ k) (e - k) .exact = .finite s m e hpos := by
  have hshift (j : Nat) : shiftToTargetExponent Format.binary64 (m * 2 ^ j) (e - j) .exact =
      (ExtendedMantissa.ofMantissaAndAccuracy m .exact, e) := by
    have htarget : Format.binary64.targetExponent (totalExponent (m * 2 ^ j) (e - j)) = e := by
      rw [targetExponent_eq, totalExponent, log2_mul_two_pow hpos, hlog]
      omega
    have hamount : (e - (e - (j : Int))).toNat = j := by omega
    rw [shiftToTargetExponent, htarget, shiftToExponent, hamount, shiftRight_exact]
    exact Prod.ext rfl (by omega)
  have hagain := hshift 0
  rw [Nat.pow_zero, Nat.mul_one, Int.natCast_zero, Int.sub_zero] at hagain
  have hrounded : (ExtendedMantissa.ofMantissaAndAccuracy m .exact).roundedMantissa = m := rfl
  have hmantissa : (ExtendedMantissa.ofMantissaAndAccuracy m .exact).mantissa = m := rfl
  simp only [roundWithAccuracy, hshift k, hrounded, hagain, hmantissa]
  exact dif_neg hpos.ne'

/-- A number below `2 ^ 53` is not rounded. -/
theorem ofNat_exact {n : Nat} (hpos : 0 < n) (hlt : n < 2 ^ 53) :
    UnpackedFloat.ofNat Format.binary64 n =
      .finite .positive (mantissa n) (exponent n) (mantissa_pos hpos) := by
  have hlog := log2_le hpos hlt
  have htarget : Format.binary64.targetExponent (totalExponent n 0) = exponent n := by
    rw [targetExponent_eq, totalExponent, exponent]
    omega
  have hamount : (0 - exponent n).toNat = 52 - n.log2 := by
    rw [exponent]
    omega
  have hexponent : (0 : Int) - (52 - n.log2 : Nat) = exponent n := by
    rw [exponent]
    omega
  have hround := roundWithAccuracy_exact (log2_mantissa hpos hlt) (e := exponent n)
    (by rw [exponent]; omega) (mantissa_pos hpos) .positive 0
  rw [Nat.pow_zero, Nat.mul_one, Int.natCast_zero, Int.sub_zero] at hround
  have hcompare : compare (n : Int) 0 = .gt := by simpa [compare_gt_iff_gt] using hpos
  simp only [UnpackedFloat.ofNat, UnpackedFloat.ofInt, UnpackedFloat.normalize, hcompare,
    Int.toNat_natCast, UnpackedFloat.round, htarget, decreaseExponent, hamount, hexponent,
    Nat.shiftLeft_eq]
  exact hround

/-! ## Packing -/

theorem bias_eq : Format.binary64.exponentBias = 1023 := rfl

theorem leading_bit {m : Nat} (hlog : m.log2 = 52) : (1#1 ++ BitVec.ofNat 52 m).toNat = m := by
  have hm : m ≠ 0 := by
    rintro rfl
    cases hlog
  have hlow : 2 ^ 52 ≤ m := (Nat.le_log2 hm).mp hlog.ge
  have hhigh : m < 2 ^ 53 := (Nat.log2_lt hm).mp (by omega)
  rw [BitVec.toNat_append, ← Nat.shiftLeft_add_eq_or_of_lt (BitVec.ofNat 52 m).isLt,
    BitVec.toNat_ofNat, BitVec.toNat_ofNat, Nat.shiftLeft_eq]
  omega

/-- A float with a mantissa of full width is what it was before it was packed. -/
theorem unpack_pack {m : Nat} {e : Int} (hlog : m.log2 = 52) (hpos : 0 < m) (he : -1074 ≤ e)
    (he' : e ≤ 0) (s : Sign) :
    UnpackedFloat.unpack Format.binary64 (UnpackedFloat.pack Format.binary64 (.finite s m e hpos)) =
      .finite s m e hpos := by
  obtain ⟨biased, hbiased⟩ : ∃ b : Nat, e = b - 1075 := ⟨(e + 1075).toNat, by omega⟩
  have hadded :
      (e + Format.binary64.exponentBias + Format.binary64.mantissaBitsWithoutImplicit).toNat =
        biased := by
    rw [bias_eq]
    show (e + (1023 : Nat) + (52 : Nat)).toNat = biased
    omega
  have hbits : (BitVec.ofNat 11 biased).toNat = biased := by
    rw [BitVec.toNat_ofNat]
    omega
  have hfull : BitVec.ofNat 11 biased ≠ -1#11 := fun h => by
    have h := congrArg BitVec.toNat h
    rw [hbits] at h
    simp at h
    omega
  have hzero : BitVec.ofNat 11 biased ≠ 0#11 := fun h => by
    have h := congrArg BitVec.toNat h
    rw [hbits] at h
    simp at h
    omega
  rw [UnpackedFloat.pack, hadded, if_neg (by show ¬ 2 ^ 11 ≤ biased + 1; omega),
    if_pos (by rw [hlog]; rfl), UnpackedFloat.unpack]
  simp only [unpackMantissa_packComponents, unpackExponent_packComponents,
    unpackSign_packComponents, Sign.ofBitVec_toBitVec, if_neg hfull, if_neg hzero,
    leading_bit hlog, hbits, bias_eq]
  congr 1
  omega

theorem unpack_model_pack {m : Nat} {e : Int} (hlog : m.log2 = 52) (hpos : 0 < m) (he : -1074 ≤ e)
    (he' : e ≤ 0) (s : Sign) :
    (Float.Model.pack (.finite s m e hpos)).unpack = .finite s m e hpos :=
  unpack_pack hlog hpos he he' s

/-! ## Numbers as floats -/

section

variable {n : Nat}

/-- A number below `2 ^ 53` can be read off its float. -/
theorem unpack_ofNat (hpos : 0 < n) (hlt : n < 2 ^ 53) :
    (Float.ofNat n).toModel.unpack =
      .finite .positive (mantissa n) (exponent n) (mantissa_pos hpos) := by
  have hlog := log2_le hpos hlt
  have hmantissa := log2_mantissa hpos hlt
  have hlow : -1074 ≤ exponent n := by
    rw [exponent]
    omega
  have hhigh : exponent n ≤ 0 := by
    rw [exponent]
    omega
  have hconverted : (Float.Model.ofUInt64 n.toUInt64).unpack =
      .finite .positive (mantissa n) (exponent n) (mantissa_pos hpos) := by
    have hn : n.toUInt64.toNat = n := UInt64.toNat_ofNat_of_lt' (Nat.lt_trans hlt (by decide))
    rw [Float.Model.ofUInt64, UnpackedFloat.ofUInt64, hn, ofNat_exact hpos hlt]
    exact unpack_model_pack hmantissa _ hlow hhigh _
  -- A decimal number is multiplied by a power of ten, here by one.
  have hone : (Float.exactlyRepresentablePowersOfTen[0]).toModel.unpack =
      .finite .positive (2 ^ 52) (-52) (Nat.two_pow_pos 52) := rfl
  have hproduct : (Float.Model.ofUInt64 n.toUInt64).mul
      (Float.exactlyRepresentablePowersOfTen[0]).toModel =
        .pack (.finite .positive (mantissa n) (exponent n) (mantissa_pos hpos)) := by
    rw [Float.Model.mul, hconverted, hone]
    exact congrArg _ (roundWithAccuracy_exact hmantissa hlow (mantissa_pos hpos) .positive 52)
  have hscientific : Float.ofNat n =
      n.toUInt64.toFloat * Float.exactlyRepresentablePowersOfTen[0] := dif_pos ⟨hlt, Nat.zero_le 22⟩
  rw [hscientific]
  show ((Float.Model.ofUInt64 n.toUInt64).mul _).unpack = _
  rw [hproduct]
  exact unpack_model_pack hmantissa _ hlow hhigh _

theorem unpack_zero : (Float.ofNat 0).toModel.unpack = .zero .positive := rfl

/-- The greater number has the greater exponent, or the same one and the greater mantissa. -/
theorem isLE_mantissa {n m : Nat} (hpos : 0 < n) (hnm : n ≤ m) :
    ((compare (exponent n) (exponent m)).then (compare (mantissa n) (mantissa m))).isLE = true := by
  have hlog : n.log2 ≤ m.log2 := (Nat.le_log2 (by omega)).mpr
    (Nat.le_trans (Nat.log2_self_le hpos.ne') hnm)
  rcases Nat.lt_or_eq_of_le hlog with hlt | heq
  · have hexponent : compare (exponent n) (exponent m) = .lt := by
      rw [compare_lt_iff_lt, exponent, exponent]
      omega
    rw [hexponent]
    rfl
  · have hexponent : compare (exponent n) (exponent m) = .eq := by
      rw [compare_eq_iff_eq, exponent, exponent, heq]
    rw [hexponent]
    show (compare (mantissa n) (mantissa m)).isLE = true
    rw [Nat.isLE_compare, mantissa, mantissa, heq]
    exact Nat.mul_le_mul_right _ hnm

/-- Numbers are compared as floats as they are by themselves. -/
theorem ofNat_le_ofNat {n m : Nat} (hnm : n ≤ m) (hlt : m < 2 ^ 53) :
    Float.ofNat n ≤ Float.ofNat m := by
  refine decide_eq_true ?_
  show (UnpackedFloat.compare (Float.ofNat n).toModel.unpack (Float.ofNat m).toModel.unpack).any
    (·.isLE) = true
  rcases Nat.eq_zero_or_pos n with rfl | hn
  · rcases Nat.eq_zero_or_pos m with rfl | hm
    · rfl
    · rw [unpack_zero, unpack_ofNat hm hlt]
      rfl
  · rw [unpack_ofNat hn (by omega), unpack_ofNat (by omega) hlt]
    exact isLE_mantissa hn hnm

/-- A number is equal to itself as a float. -/
theorem ofNat_beq_self (hlt : n < 2 ^ 53) : (Float.ofNat n == Float.ofNat n) = true := by
  show (UnpackedFloat.compare (Float.ofNat n).toModel.unpack (Float.ofNat n).toModel.unpack ==
    some .eq) = true
  rcases Nat.eq_zero_or_pos n with rfl | hpos
  · rfl
  · rw [unpack_ofNat hpos hlt]
    show (some ((compare (exponent n) (exponent n)).then (compare (mantissa n) (mantissa n))) ==
      some .eq) = true
    rw [compare_eq_iff_eq.mpr rfl, compare_eq_iff_eq.mpr rfl]
    rfl

/-- **A number is got back from its float.** -/
theorem toUInt64_ofNat (hlt : n < 2 ^ 53) : (Float.ofNat n).toUInt64.toNat = n := by
  show ((Float.ofNat n).toModel.unpack.toUInt64).toNat = n
  rcases Nat.eq_zero_or_pos n with rfl | hpos
  · rfl
  · have hlog := log2_le hpos hlt
    have hround : roundToInt .positive (mantissa n) (exponent n) = n := by
      have hkept : (exponent n - 0).toNat = 0 := by
        rw [exponent]
        omega
      have hamount : (0 - (exponent n - (0 : Nat))).toNat = 52 - n.log2 := by
        rw [exponent]
        omega
      simp only [roundToInt, decreaseExponent, shiftToExponent, hkept, hamount, Nat.shiftLeft_zero]
      rw [mantissa, shiftRight_exact]
      rfl
    rw [unpack_ofNat hpos hlt, UnpackedFloat.toUInt64, UnpackedFloat.toInt, hround,
      Int.toNat_natCast, UInt64.ofNatClamp, dif_pos (Nat.lt_trans hlt (by decide))]
    rfl

end

end ScriptHost.Script
