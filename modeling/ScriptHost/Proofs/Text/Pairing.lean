import ScriptHost.Proofs.Text.Grammar

/-!
# Unpaired halves

A half has no partner if it is a high one that no low one follows, or a low one that no high one
precedes (`UnpairedAt`).  Every row of units is that of some characters, up to its end or to its
first half without a partner (`exists_chars`), and the two readings of units, directly and by way of
engine text, stop at that place with the same half: `pairings_agree`.
-/

namespace ScriptHost.Text

/-! ## Units of characters -/

/-- The units of a row of characters. -/
def unitsOfChars (cs : List Char) : List UInt16 := cs.flatMap fun c => unitsOfCode c.toNat

theorem unitsOfChars_cons (c : Char) (cs : List Char) :
    unitsOfChars (c :: cs) = unitsOfCode c.toNat ++ unitsOfChars cs := List.flatMap_cons ..

/-- The units of a character: one that is no half, or a pair. -/
theorem unitsOfCode_cases (c : Char) :
    (∃ u, unitsOfCode c.toNat = [u] ∧ isHigh u = false ∧ isLow u = false ∧ u.toNat = c.toNat) ∨
    ∃ high low, unitsOfCode c.toNat = [high, low] ∧ isHigh high = true ∧ isLow low = true ∧
      pairCode high low = c.toNat := by
  have hvalid : c.toNat.isValidChar := c.valid
  have hhalf := not_half_of_isValidChar hvalid
  have hgreatest := toNat_lt_of_isValidChar hvalid
  unfold unitsOfCode
  split
  · next hbasic =>
    have hu := toNat_ofNat_of_lt_unit hbasic
    refine .inl ⟨_, rfl, ?_, ?_, hu⟩
    · rw [← Bool.not_eq_true, isHigh_iff, hu]
      omega
    · rw [← Bool.not_eq_true, isLow_iff, hu]
      omega
  · next hbasic =>
    have hhigh : (UInt16.ofNat (0xD800 + (c.toNat - 0x10000) / 0x400)).toNat =
        0xD800 + (c.toNat - 0x10000) / 0x400 := toNat_ofNat_of_lt_unit (by omega)
    have hlow : (UInt16.ofNat (0xDC00 + (c.toNat - 0x10000) % 0x400)).toNat =
        0xDC00 + (c.toNat - 0x10000) % 0x400 := toNat_ofNat_of_lt_unit (by omega)
    generalize UInt16.ofNat (0xD800 + (c.toNat - 0x10000) / 0x400) = high at hhigh ⊢
    generalize UInt16.ofNat (0xDC00 + (c.toNat - 0x10000) % 0x400) = low at hlow ⊢
    refine .inr ⟨high, low, rfl, ?_, ?_, ?_⟩
    · rw [isHigh_iff, hhigh]
      omega
    · rw [isLow_iff, hlow]
      omega
    · unfold pairCode
      omega

theorem exists_char_of_not_half {u : UInt16} (h : isHigh u = false) (h' : isLow u = false) :
    ∃ c : Char, unitsOfCode c.toNat = [u] := by
  have hu := u.toNat_lt
  rw [← Bool.not_eq_true, isHigh_iff] at h
  rw [← Bool.not_eq_true, isLow_iff] at h'
  have hvalid : u.toNat.isValidChar := by simp only [Nat.isValidChar]; omega
  refine ⟨Char.ofNat u.toNat, ?_⟩
  rw [toNat_ofNat_of_isValidChar hvalid, unitsOfCode, if_pos (by omega), UInt16.ofNat_toNat]

/-- The units of the code point that a pair stands for are the pair. -/
theorem unitsOfCode_pairCode {high low : UInt16} (hhigh : isHigh high = true)
    (hlow : isLow low = true) : unitsOfCode (pairCode high low) = [high, low] := by
  have hleast := (pairCode_bounds hhigh hlow).1
  rw [isHigh_iff] at hhigh
  rw [isLow_iff] at hlow
  have h₁ : 0xD800 + (pairCode high low - 0x10000) / 0x400 = high.toNat := by unfold pairCode; omega
  have h₂ : 0xDC00 + (pairCode high low - 0x10000) % 0x400 = low.toNat := by unfold pairCode; omega
  rw [unitsOfCode, if_neg (by omega), h₁, h₂, UInt16.ofNat_toNat, UInt16.ofNat_toNat]

theorem exists_char_of_pair {high low : UInt16} (hhigh : isHigh high = true)
    (hlow : isLow low = true) : ∃ c : Char, unitsOfCode c.toNat = [high, low] := by
  refine ⟨Char.ofNat (pairCode high low), ?_⟩
  rw [toNat_ofNat_of_isValidChar (isValidChar_pairCode hhigh hlow), unitsOfCode_pairCode hhigh hlow]

/-! ## Halves without a partner -/

/-- The half `u` at the index `i` has no partner. -/
inductive UnpairedAt (us : List UInt16) (i : Nat) (u : UInt16) : Prop
  | high (hu : us[i]? = some u) (hhigh : isHigh u = true)
    (halone : ∀ v, us[i + 1]? = some v → isLow v = false)
  | low (hu : us[i]? = some u) (hlow : isLow u = true)
    (halone : ∀ j v, j + 1 = i → us[j]? = some v → isHigh v = false)

/-- The half `u` in front of `rest` has no partner there. -/
def Blocks (u : UInt16) (rest : List UInt16) : Prop :=
  isLow u = true ∨ isHigh u = true ∧ ∀ v, rest[0]? = some v → isLow v = false

theorem isLow_of_isHigh {u : UInt16} (h : isHigh u = true) : isLow u = false := by
  rw [isHigh_iff] at h
  rw [← Bool.not_eq_true, isLow_iff]
  omega

theorem isHigh_of_isLow {u : UInt16} (h : isLow u = true) : isHigh u = false := by
  rw [isLow_iff] at h
  rw [← Bool.not_eq_true, isHigh_iff]
  omega

theorem Blocks.isHalf {u : UInt16} {rest : List UInt16} (h : Blocks u rest) : isHalf u = true := by
  rw [Text.isHalf, Bool.or_eq_true]
  exact h.elim .inr fun h => .inl h.1

/-- Units are those of characters, up to their end or to a half without a partner. -/
theorem exists_chars (us : List UInt16) :
    ∃ cs left, us = unitsOfChars cs ++ left ∧
      (left = [] ∨ ∃ u rest, left = u :: rest ∧ Blocks u rest) := by
  induction hlength : us.length using Nat.strongRecOn generalizing us with
  | ind n ih =>
    subst hlength
    have hstep (c : Char) (rest : List UInt16) (hus : us = unitsOfCode c.toNat ++ rest)
        (hlt : rest.length < us.length) : ∃ cs left, us = unitsOfChars cs ++ left ∧
          (left = [] ∨ ∃ u rest, left = u :: rest ∧ Blocks u rest) := by
      obtain ⟨cs, left, hrest, hleft⟩ := ih _ hlt rest rfl
      exact ⟨c :: cs, left, by rw [hus, unitsOfChars_cons, hrest, List.append_assoc], hleft⟩
    match us with
    | [] => exact ⟨[], [], rfl, .inl rfl⟩
    | u :: rest =>
      cases hlow : isLow u with
      | true => exact ⟨[], u :: rest, rfl, .inr ⟨u, rest, rfl, .inl hlow⟩⟩
      | false =>
        cases hhigh : isHigh u with
        | false =>
          obtain ⟨c, hc⟩ := exists_char_of_not_half hhigh hlow
          exact hstep c rest (by rw [hc]; rfl) (by simp)
        | true =>
          match rest with
          | [] => exact ⟨[], [u], rfl, .inr ⟨u, [], rfl, .inr ⟨hhigh, by simp⟩⟩⟩
          | v :: rest =>
            cases hv : isLow v with
            | false =>
              exact ⟨[], u :: v :: rest, rfl, .inr ⟨u, v :: rest, rfl, .inr ⟨hhigh, by simp [hv]⟩⟩⟩
            | true =>
              obtain ⟨c, hc⟩ := exists_char_of_pair hhigh hv
              exact hstep c rest (by rw [hc]; rfl) (by simp only [List.length_cons]; omega)

/-- A unit put in front changes nothing for the halves behind, unless it is a high one that becomes
the partner of the first of them. -/
theorem unpairedAt_cons {us : List UInt16} {i : Nat} {u v : UInt16}
    (hv : i = 0 → isHigh v = false) :
    UnpairedAt (v :: us) (i + 1) u ↔ UnpairedAt us i u := by
  constructor
  · rintro (⟨hu, hhigh, halone⟩ | ⟨hu, hlow, halone⟩)
    · exact .high hu hhigh halone
    · exact .low hu hlow fun j w hj hw => halone (j + 1) w (by omega) hw
  · rintro (⟨hu, hhigh, halone⟩ | ⟨hu, hlow, halone⟩)
    · exact .high hu hhigh halone
    · refine .low hu hlow fun j w hj hw => ?_
      cases j with
      | zero => cases hw; exact hv (by omega)
      | succ j => exact halone j w (by omega) hw

/-- A character has no half without a partner, and gives none to those behind it. -/
theorem unpairedAt_append_unitsOfCode (c : Char) {us : List UInt16} {i : Nat} {u : UInt16} :
    UnpairedAt (unitsOfCode c.toNat ++ us) i u ↔
      ∃ k, i = (unitsOfCode c.toNat).length + k ∧ UnpairedAt us k u := by
  rcases unitsOfCode_cases c with ⟨v, hv, hhigh, hlow, -⟩ | ⟨high, low, hpair, hhigh, hlow, -⟩
  · rw [hv]
    constructor
    · intro h
      match i with
      | 0 =>
        rcases h with ⟨hu, h, -⟩ | ⟨hu, h, -⟩ <;> cases hu
        · rw [hhigh] at h; cases h
        · rw [hlow] at h; cases h
      | i + 1 => exact ⟨i, Nat.add_comm .., (unpairedAt_cons fun _ => hhigh).mp h⟩
    · rintro ⟨k, rfl, h⟩
      rw [Nat.add_comm]
      exact (unpairedAt_cons fun _ => hhigh).mpr h
  · have hlow' : isHigh low = false := isHigh_of_isLow hlow
    have hbehind (k : Nat) : UnpairedAt (high :: low :: us) (k + 2) u ↔ UnpairedAt us k u :=
      (unpairedAt_cons (by simp)).trans (unpairedAt_cons fun _ => hlow')
    rw [hpair]
    constructor
    · intro h
      match i with
      | 0 =>
        rcases h with ⟨hu, -, halone⟩ | ⟨hu, h, -⟩
        · rw [halone low rfl] at hlow; cases hlow
        · cases hu; rw [isLow_of_isHigh hhigh] at h; cases h
      | 1 =>
        rcases h with ⟨hu, h, -⟩ | ⟨hu, -, halone⟩
        · cases hu; rw [hlow'] at h; cases h
        · rw [halone 0 high rfl rfl] at hhigh; cases hhigh
      | k + 2 => exact ⟨k, Nat.add_comm .., (hbehind k).mp h⟩
    · rintro ⟨k, rfl, h⟩
      rw [Nat.add_comm]
      exact (hbehind k).mpr h

theorem unpairedAt_append (cs : List Char) {us : List UInt16} {i : Nat} {u : UInt16} :
    UnpairedAt (unitsOfChars cs ++ us) i u ↔
      ∃ k, i = (unitsOfChars cs).length + k ∧ UnpairedAt us k u := by
  induction cs generalizing i with
  | nil =>
    constructor
    · exact fun h => ⟨i, by simp [unitsOfChars], h⟩
    · rintro ⟨k, hk, h⟩
      simpa [unitsOfChars, hk] using h
  | cons c cs ih =>
    rw [unitsOfChars_cons, List.append_assoc, unpairedAt_append_unitsOfCode, List.length_append]
    constructor
    · rintro ⟨k, rfl, h⟩
      obtain ⟨k', rfl, h'⟩ := ih.mp h
      exact ⟨k', by omega, h'⟩
    · rintro ⟨k, rfl, h⟩
      exact ⟨_, Nat.add_assoc .., ih.mpr ⟨k, rfl, h⟩⟩

theorem unpairedAt_of_blocks {u : UInt16} {rest : List UInt16} (h : Blocks u rest) :
    UnpairedAt (u :: rest) 0 u := by
  rcases h with hlow | ⟨hhigh, halone⟩
  · exact .low rfl hlow fun j v hj => by omega
  · exact .high rfl hhigh fun v hv => halone v hv

/-! ## The direct reading -/

theorem pairUnitsFrom_append_unitsOfCode (c : Char) (us : List UInt16) (i : Nat) :
    pairUnitsFrom i (unitsOfCode c.toNat ++ us) =
      (pairUnitsFrom (i + (unitsOfCode c.toNat).length) us).map (c :: ·) := by
  rcases unitsOfCode_cases c with ⟨v, hv, hhigh, hlow, hcode⟩ |
    ⟨high, low, hpair, hhigh, hlow, hcode⟩
  · rw [hv]
    cases us with
    | nil => simp [pairUnitsFrom, isHalf, hhigh, hlow, hcode, Except.map]
    | cons w us => simp [pairUnitsFrom, hhigh, hlow, hcode]
  · rw [hpair]
    simp [pairUnitsFrom, hhigh, hlow, hcode]

theorem pairUnitsFrom_append (cs : List Char) (us : List UInt16) (i : Nat) :
    pairUnitsFrom i (unitsOfChars cs ++ us) =
      (pairUnitsFrom (i + (unitsOfChars cs).length) us).map (cs ++ ·) := by
  induction cs generalizing i with
  | nil =>
    simp only [unitsOfChars, List.flatMap_nil, List.nil_append, List.length_nil, Nat.add_zero]
    cases pairUnitsFrom i us <;> rfl
  | cons c cs ih =>
    rw [unitsOfChars_cons, List.append_assoc, pairUnitsFrom_append_unitsOfCode, ih,
      List.length_append, Nat.add_assoc]
    cases pairUnitsFrom (i + ((unitsOfCode c.toNat).length + (unitsOfChars cs).length)) us <;> rfl

theorem pairUnitsFrom_of_blocks {u : UInt16} {rest : List UInt16} (h : Blocks u rest) (i : Nat) :
    pairUnitsFrom i (u :: rest) = .error ⟨u, i⟩ := by
  cases rest with
  | nil => rw [pairUnitsFrom, if_pos h.isHalf]
  | cons v rest =>
    rcases h with hlow | ⟨hhigh, halone⟩
    · rw [pairUnitsFrom, if_neg (by simp [isHigh_of_isLow hlow]), if_pos hlow]
    · rw [pairUnitsFrom, if_pos hhigh, if_neg (by simp [halone v rfl])]

theorem pairUnits_unitsOfChars (cs : List Char) :
    pairUnits (unitsOfChars cs) = .ok (String.ofList cs) := by
  have h := pairUnitsFrom_append cs [] 0
  rw [List.append_nil] at h
  simp [pairUnits, h, pairUnitsFrom, Except.map]

/-! ## The reading by way of engine text -/

theorem encodeUnits_cons (u : UInt16) (us : List UInt16) :
    encodeUnits (u :: us) = encodeUnit u ++ encodeUnits us := List.flatMap_cons ..

theorem encodeUnits_append (us vs : List UInt16) :
    encodeUnits (us ++ vs) = encodeUnits us ++ encodeUnits vs := List.flatMap_append ..

theorem token_unitsOfCode (c : Char) : Token (encodeUnits (unitsOfCode c.toNat)) c := by
  rcases unitsOfCode_cases c with ⟨v, hv, -, -, hcode⟩ | ⟨high, low, hpair, hhigh, hlow, hcode⟩
  · rw [hv, encodeUnits_cons, encodeUnit_eq_sequence, hcode, ← utf8EncodeChar_eq_sequence]
    simpa [encodeUnits] using Token.plain c
  · rw [hpair, encodeUnits_cons, encodeUnits_cons]
    simpa [encodeUnits, hcode] using Token.pair hhigh hlow

theorem tokens_unitsOfChars (cs : List Char) : Tokens (encodeUnits (unitsOfChars cs)) cs := by
  induction cs with
  | nil => exact .nil
  | cons c cs ih =>
    rw [unitsOfChars_cons, encodeUnits_append]
    exact .cons (token_unitsOfCode c) ih

theorem takeCode_of_blocks {u : UInt16} {rest : List UInt16} (h : Blocks u rest) :
    takeCode (encodeUnits (u :: rest)) = .error (some u) := by
  rw [encodeUnits_cons, takeCode]
  simp only [takeSequence?_encodeUnit, UInt16.ofNat_toNat]
  rcases h with hlow | ⟨hhigh, halone⟩
  · have hbounds := isLow_iff.mp hlow
    rw [if_neg (by omega), if_pos hbounds]
  · rw [if_pos (isHigh_iff.mp hhigh)]
    cases rest with
    | nil => rfl
    | cons v rest =>
      have hv : ¬ (0xDC00 ≤ v.toNat ∧ v.toNat < 0xE000) := by
        rw [← isLow_iff, halone v rfl]
        simp
      simp only [encodeUnits_cons, takeSequence?_encodeUnit]
      rw [if_neg hv]

theorem fromEngineText_unitsOfChars (cs : List Char) :
    fromEngineText (encodeUnits (unitsOfChars cs)) = .ok (String.ofList cs) :=
  fromEngineText_eq_ok_iff.mpr (by rw [String.toList_ofList]; exact tokens_unitsOfChars cs)

theorem fromEngineText_of_blocks (cs : List Char) {u : UInt16} {rest : List UInt16}
    (h : Blocks u rest) :
    fromEngineText (encodeUnits (unitsOfChars cs ++ u :: rest)) =
      .error (.loneSurrogate u (encodeUnits (unitsOfChars cs)).length) := by
  have hne : encodeUnits (u :: rest) ≠ [] := by simp [encodeUnits_cons, encodeUnit_ne_nil]
  rw [fromEngineText_eq, encodeUnits_append, pairSequences_append (tokens_unitsOfChars cs),
    pairSequences_of_error hne (takeCode_of_blocks h)]
  simp [Except.map, Blockage.error]

/-! ## Both readings -/

theorem units_ofList (cs : List Char) : units (String.ofList cs) = unitsOfChars cs := by
  rw [units, String.toList_ofList]
  rfl

/-- **The two readings of units agree.**  If every half has a partner, both give the string whose
units they are.  Otherwise both stop at the first half without one: the direct reading at its index,
and the reading by way of engine text behind the bytes of the units before it. -/
theorem pairings_agree (us : List UInt16) :
    ((∀ i u, ¬ UnpairedAt us i u) ∧ ∃ s, units s = us ∧ (HostText.utf16 us).decode = .ok s ∧
      fromEngineText (encodeUnits us) = .ok s) ∨
    ∃ i u, UnpairedAt us i u ∧ (∀ j v, UnpairedAt us j v → i ≤ j) ∧
      (HostText.utf16 us).decode = .error (.invalidUtf16 u i) ∧
      fromEngineText (encodeUnits us) =
        .error (.loneSurrogate u (encodeUnits (us.take i)).length) := by
  obtain ⟨cs, left, rfl, hleft⟩ := exists_chars us
  rcases hleft with rfl | ⟨u, rest, rfl, hblocks⟩
  · refine .inl ⟨fun i u h => ?_, String.ofList cs, ?_, ?_, ?_⟩
    · obtain ⟨k, -, hk⟩ := (unpairedAt_append cs).mp h
      rcases hk with ⟨hu, -, -⟩ | ⟨hu, -, -⟩ <;> simp at hu
    · rw [units_ofList, List.append_nil]
    · rw [List.append_nil, HostText.decode, pairUnits_unitsOfChars]
      rfl
    · rw [List.append_nil, fromEngineText_unitsOfChars]
  · refine .inr ⟨(unitsOfChars cs).length, u, ?_, fun j v h => ?_, ?_, ?_⟩
    · exact (unpairedAt_append cs).mpr ⟨0, rfl, unpairedAt_of_blocks hblocks⟩
    · obtain ⟨k, rfl, -⟩ := (unpairedAt_append cs).mp h
      exact Nat.le_add_right ..
    · have hpairs : pairUnits (unitsOfChars cs ++ u :: rest) =
          .error ⟨u, (unitsOfChars cs).length⟩ := by
        simp [pairUnits, pairUnitsFrom_append, pairUnitsFrom_of_blocks hblocks, Except.map]
      rw [HostText.decode, hpairs]
      rfl
    · rw [fromEngineText_of_blocks cs hblocks, List.take_left]

end ScriptHost.Text
