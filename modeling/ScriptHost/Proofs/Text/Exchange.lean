import ScriptHost.Proofs.Text.Pairing

/-!
# Text there and back

Units survive the way out and in again, whatever they are (`decodeUnits_encodeUnits`), and a string
arrives as its own units (`decodeUnits_utf8`).  On the way out there is a string exactly if every
half has its partner (`Paired`, `fromEngineText_encodeUnits`), and it is the one with these units
(`fromEngineText_encodeUnits_eq_ok_iff`).
-/

namespace ScriptHost.Text

/-! ## Engine text as units -/

theorem decodeUnits_of_takeSequence? {bytes behind : List UInt8} {code : Nat}
    (h : takeSequence? bytes = some (code, behind)) :
    decodeUnits bytes = unitsOfCode code ++ decodeUnits behind := by
  cases bytes with
  | nil => cases h
  | cons b rest =>
    rw [decodeUnits]
    split
    · next code' behind' h' =>
      rw [h] at h'
      cases h'
      rfl
    · next h' =>
      rw [h] at h'
      cases h'

theorem decodeUnits_of_none {b : UInt8} {rest : List UInt8} (h : takeSequence? (b :: rest) = none) :
    decodeUnits (b :: rest) = replacement :: decodeUnits rest := by
  rw [decodeUnits]
  split
  · next code behind h' =>
    rw [h] at h'
    cases h'
  · rfl

theorem unitsOfCode_toNat (u : UInt16) : unitsOfCode u.toNat = [u] := by
  rw [unitsOfCode, if_pos u.toNat_lt, UInt16.ofNat_toNat]

theorem decodeUnits_encodeUnit_append (u : UInt16) (behind : List UInt8) :
    decodeUnits (encodeUnit u ++ behind) = u :: decodeUnits behind := by
  rw [decodeUnits_of_takeSequence? (takeSequence?_encodeUnit u behind), unitsOfCode_toNat]
  rfl

/-- **Units come back as they were**, paired or not. -/
theorem decodeUnits_encodeUnits (us : List UInt16) : decodeUnits (encodeUnits us) = us := by
  induction us with
  | nil => simp [encodeUnits, decodeUnits]
  | cons u us ih => rw [encodeUnits_cons, decodeUnits_encodeUnit_append, ih]

/-- A token is decoded to the units of its character. -/
theorem Token.decodeUnits_append {token : List UInt8} {c : Char} (h : Token token c)
    (behind : List UInt8) :
    decodeUnits (token ++ behind) = unitsOfCode c.toNat ++ decodeUnits behind := by
  cases h with
  | plain =>
    have hread : takeSequence? (String.utf8EncodeChar c ++ behind) = some (c.toNat, behind) :=
      takeSequence?_eq_some_iff.mpr
        ⟨by rw [utf8EncodeChar_eq_sequence], toNat_lt_of_isValidChar c.valid⟩
    exact decodeUnits_of_takeSequence? hread
  | @pair high low hhigh hlow =>
    rw [List.append_assoc, decodeUnits_encodeUnit_append, decodeUnits_encodeUnit_append,
      toNat_ofNat_of_isValidChar (isValidChar_pairCode hhigh hlow), unitsOfCode_pairCode hhigh hlow]
    rfl

theorem decodeUnits_append {bytes : List UInt8} {cs : List Char} (h : Tokens bytes cs)
    (left : List UInt8) : decodeUnits (bytes ++ left) = unitsOfChars cs ++ decodeUnits left := by
  induction h with
  | nil => rfl
  | cons first _ ih =>
    rw [List.append_assoc, first.decodeUnits_append, ih, unitsOfChars_cons, List.append_assoc]

theorem decodeUnits_of_tokens {bytes : List UInt8} {cs : List Char} (h : Tokens bytes cs) :
    decodeUnits bytes = unitsOfChars cs := by
  simpa [decodeUnits] using decodeUnits_append h []

theorem decodeUnits_utf8 (s : String) : decodeUnits (utf8 s) = units s :=
  decodeUnits_of_tokens (tokens_utf8 s)

/-! ## Units as a string -/

/-- Every half has its partner. -/
def Paired (us : List UInt16) : Prop := ∀ i u, ¬ UnpairedAt us i u

theorem paired_unitsOfChars (cs : List Char) : Paired (unitsOfChars cs) := by
  intro i u h
  rw [← List.append_nil (unitsOfChars cs)] at h
  obtain ⟨k, -, hk⟩ := (unpairedAt_append cs).mp h
  rcases hk with ⟨hu, -, -⟩ | ⟨hu, -, -⟩ <;> simp at hu

theorem paired_units (s : String) : Paired (units s) := paired_unitsOfChars s.toList

theorem pairUnitsLossyChars_append (c : Char) (us : List UInt16) :
    pairUnitsLossyChars (unitsOfCode c.toNat ++ us) = c :: pairUnitsLossyChars us := by
  rcases unitsOfCode_cases c with ⟨v, hv, hhigh, hlow, hcode⟩ |
    ⟨high, low, hpair, hhigh, hlow, hcode⟩
  · rw [hv]
    cases us with
    | nil => simp [pairUnitsLossyChars, isHalf, hhigh, hlow, hcode]
    | cons w us => simp [pairUnitsLossyChars, hhigh, hlow, hcode]
  · rw [hpair]
    simp [pairUnitsLossyChars, hhigh, hlow, hcode]

theorem pairUnitsLossyChars_unitsOfChars_append (cs : List Char) (us : List UInt16) :
    pairUnitsLossyChars (unitsOfChars cs ++ us) = cs ++ pairUnitsLossyChars us := by
  induction cs with
  | nil => rfl
  | cons c cs ih =>
    rw [unitsOfChars_cons, List.append_assoc, pairUnitsLossyChars_append, ih, List.cons_append]

theorem pairUnitsLossy_unitsOfChars (cs : List Char) :
    pairUnitsLossy (unitsOfChars cs) = String.ofList cs := by
  have h := pairUnitsLossyChars_unitsOfChars_append cs []
  rw [List.append_nil] at h
  rw [pairUnitsLossy, h, pairUnitsLossyChars, List.append_nil]

theorem pairUnitsLossy_units (s : String) : pairUnitsLossy (units s) = s := by
  have h := pairUnitsLossy_unitsOfChars s.toList
  rwa [String.ofList_toList] at h

theorem units_inj {s s' : String} : units s = units s' ↔ s = s' := by
  refine ⟨fun h => ?_, congrArg units⟩
  rw [← pairUnitsLossy_units s, h, pairUnitsLossy_units]

/-- **Units leave as a string** exactly if every half has its partner. -/
theorem fromEngineText_encodeUnits (us : List UInt16) :
    (Paired us ∧ fromEngineText (encodeUnits us) = .ok (pairUnitsLossy us)) ∨
    ¬ Paired us ∧ ∃ e, fromEngineText (encodeUnits us) = .error e := by
  obtain ⟨cs, left, rfl, rfl | ⟨u, rest, rfl, hblocks⟩⟩ := exists_chars us
  · rw [List.append_nil, pairUnitsLossy_unitsOfChars, fromEngineText_unitsOfChars]
    exact .inl ⟨paired_unitsOfChars cs, rfl⟩
  · refine .inr ⟨fun h => ?_, _, fromEngineText_of_blocks cs hblocks⟩
    exact h _ u ((unpairedAt_append cs).mpr ⟨0, rfl, unpairedAt_of_blocks hblocks⟩)

/-- Units leave as the string whose units they are, and as no other. -/
theorem fromEngineText_encodeUnits_eq_ok_iff {us : List UInt16} {s : String} :
    fromEngineText (encodeUnits us) = .ok s ↔ us = units s := by
  constructor
  · intro h
    have hunits := decodeUnits_of_tokens (fromEngineText_eq_ok_iff.mp h)
    rwa [decodeUnits_encodeUnits] at hunits
  · rintro rfl
    have h := fromEngineText_unitsOfChars s.toList
    rwa [String.ofList_toList] at h

end ScriptHost.Text
