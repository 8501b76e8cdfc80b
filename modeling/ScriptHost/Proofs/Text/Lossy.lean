import ScriptHost.Proofs.Text.Words

/-!
# The strict reading and the replacing one

`fromEngineText` stops at the first fault of engine text, `fromEngineTextLossy` replaces it and goes
on.  The one walks over bytes and joins pairs as it goes, the other turns all bytes into units first
and joins pairs then, so what is a fault has to be the same for both.

* `blocks_of_takeCode`: a half on which the walk over bytes stops has no partner among the units
  either, whatever stands behind it;
* `exists_replaced`: where the walk stops, the replacement character appears;
* `readings_agree`: both readings in all.
-/

namespace ScriptHost.Text

theorem pairUnitsLossyChars_of_blocks {u : UInt16} {rest : List UInt16} (h : Blocks u rest) :
    pairUnitsLossyChars (u :: rest) = '\uFFFD' :: pairUnitsLossyChars rest := by
  cases rest with
  | nil => simp [pairUnitsLossyChars, h.isHalf]
  | cons v rest =>
    rcases h with hlow | ⟨hhigh, halone⟩
    · rw [pairUnitsLossyChars, if_neg (by simp [isHigh_of_isLow hlow]), if_pos hlow]
    · rw [pairUnitsLossyChars, if_pos hhigh, if_neg (by simp [halone v rfl])]

/-- Bytes that do not begin with the sequence of a low half do not begin with that unit either. -/
theorem isLow_head_decodeUnits {bytes : List UInt8}
    (h : ∀ code behind, takeSequence? bytes = some (code, behind) →
      ¬ (0xDC00 ≤ code ∧ code < 0xE000))
    {v : UInt16} (hv : (decodeUnits bytes)[0]? = some v) : isLow v = false := by
  cases bytes with
  | nil => simp [decodeUnits] at hv
  | cons b rest =>
    cases hread : takeSequence? (b :: rest) with
    | none =>
      rw [decodeUnits_of_none hread] at hv
      cases hv
      rfl
    | some found =>
      obtain ⟨code, behind⟩ := found
      have hcode := h code behind hread
      have hgreatest := (takeSequence?_eq_some_iff.mp hread).2
      rw [decodeUnits_of_takeSequence? hread, unitsOfCode] at hv
      split at hv
      · next hbasic =>
        cases hv
        rw [← Bool.not_eq_true, isLow_iff, toNat_ofNat_of_lt_unit hbasic]
        exact hcode
      · cases hv
        apply isLow_of_isHigh
        rw [isHigh_iff, toNat_ofNat_of_lt_unit (by omega)]
        omega

/-- A half on which the walk over bytes stops has no partner among the units. -/
theorem blocks_of_takeCode {left : List UInt8} {u : UInt16} (h : takeCode left = .error (some u)) :
    ∃ rest, decodeUnits left = u :: rest ∧ Blocks u rest := by
  unfold takeCode at h
  split at h
  · cases h
  · next code behind hread =>
    have hdecode (hcode : code < 0xE000) :
        decodeUnits left = UInt16.ofNat code :: decodeUnits behind := by
      rw [decodeUnits_of_takeSequence? hread, unitsOfCode, if_pos (by omega)]
      rfl
    have hunit (hcode : code < 0xE000) : (UInt16.ofNat code).toNat = code :=
      toNat_ofNat_of_lt_unit (by omega)
    -- A high half stops the walk if the sequence behind it is none, or not that of a low half.
    have hblocks (hhigh : 0xD800 ≤ code ∧ code < 0xDC00)
        (hsecond : ∀ low behind', takeSequence? behind = some (low, behind') →
          ¬ (0xDC00 ≤ low ∧ low < 0xE000)) :
        ∃ rest, decodeUnits left = UInt16.ofNat code :: rest ∧ Blocks (UInt16.ofNat code) rest :=
      ⟨_, hdecode (by omega), .inr ⟨by rwa [isHigh_iff, hunit (by omega)],
        fun v hv => isLow_head_decodeUnits hsecond hv⟩⟩
    split at h
    · next hhigh =>
      split at h
      · next low behind' hsecond =>
        split at h
        · cases h
        · next hlow =>
          cases h
          exact hblocks hhigh fun low' behind'' h' => by rw [hsecond] at h'; cases h'; exact hlow
      · next hsecond =>
        cases h
        exact hblocks hhigh fun low behind' h' => by rw [hsecond] at h'; cases h'
    · split at h
      · next hlow =>
        cases h
        exact ⟨_, hdecode (by omega), .inl (by rwa [isLow_iff, hunit (by omega)])⟩
      · cases h

/-- Where the walk over bytes stops, a character is replaced. -/
theorem exists_replaced {left : List UInt8} {half : Option UInt16} (hne : left ≠ [])
    (h : takeCode left = .error half) :
    ∃ more, pairUnitsLossyChars (decodeUnits left) = '\uFFFD' :: more := by
  cases half with
  | some u =>
    obtain ⟨rest, hdecode, hblocks⟩ := blocks_of_takeCode h
    exact ⟨_, by rw [hdecode, pairUnitsLossyChars_of_blocks hblocks]⟩
  | none =>
    obtain ⟨b, rest, rfl⟩ := List.exists_cons_of_ne_nil hne
    have hnone : takeSequence? (b :: rest) = none := by
      unfold takeCode at h
      split at h
      · next hread => exact hread
      · split at h
        · split at h
          · split at h <;> cases h
          · cases h
        · split at h <;> cases h
    have hcode : replacement :: decodeUnits rest = unitsOfCode '\uFFFD'.toNat ++ decodeUnits rest :=
      rfl
    exact ⟨_, by rw [decodeUnits_of_none hnone, hcode, pairUnitsLossyChars_append]⟩

/-- **The strict reading and the replacing one never part.**  The units of any text are the same on
words and with numbers.  Text that the strict reading accepts has the units of the string that was
read, and the replacing reading gives that string.  Text that it refuses is read alike by both up to
the place that is blamed, the end of the longest row of tokens; there the replacing reading has the
replacement character. -/
theorem readings_agree (bytes : List UInt8) :
    decodeWords bytes = decodeUnits bytes ∧
    (∀ s, fromEngineText bytes = .ok s →
      decodeUnits bytes = units s ∧ fromEngineTextLossy bytes = s) ∧
    ∀ e, fromEngineText bytes = .error e →
      ∃ n cs more, (e = .invalidUtf8 n ∨ ∃ u, e = .loneSurrogate u n) ∧ LongestRow bytes n ∧
        Tokens (bytes.take n) cs ∧
        decodeUnits bytes = unitsOfChars cs ++ decodeUnits (bytes.drop n) ∧
        (fromEngineTextLossy bytes).toList = cs ++ '\uFFFD' :: more := by
  refine ⟨decodeWords_eq_decodeUnits bytes, fun s hs => ?_, fun e he => ?_⟩
  · have hunits : decodeUnits bytes = units s :=
      decodeUnits_of_tokens (fromEngineText_eq_ok_iff.mp hs)
    exact ⟨hunits, by rw [fromEngineTextLossy, hunits, pairUnitsLossy_units]⟩
  · rw [fromEngineText_eq] at he
    rcases pairSequences_tokens bytes with ⟨cs, -, hread⟩ |
      ⟨read, left, cs, half, rfl, htokens, hne, hhalf, hread⟩
    · rw [hread] at he
      cases he
    · rw [hread] at he
      cases he
      obtain ⟨more, hmore⟩ := exists_replaced hne hhalf
      refine ⟨read.length, cs, more, ?_, longestRow_of_blockage htokens hhalf, ?_, ?_, ?_⟩
      · cases half with
        | none => exact .inl (by simp [Blockage.error])
        | some u => exact .inr ⟨u, by simp [Blockage.error]⟩
      · rwa [List.take_left]
      · rw [List.drop_left, decodeUnits_append htokens]
      · rw [fromEngineTextLossy, pairUnitsLossy, String.toList_ofList, decodeUnits_append htokens,
          pairUnitsLossyChars_unitsOfChars_append, hmore]

end ScriptHost.Text
