import ScriptHost.Proofs.Text.Exchange

/-!
# Reading on words

`decodeWords` reads engine text with masks and shifts, `decodeUnits` and the readers of the host go
from byte to byte and compute with numbers.  Nothing is lost to the width of the
word, so they come to the same.

* `continuation?_eq_mask`, `lead?_eq_some_word`: what the masks let through of a byte;
* `takeContinuations?_eq_shiftIn?`, `takeSequence?_eq_wordOf?`: one sequence;
* `decodeWords_eq_decodeUnits`: all of the text.
-/

namespace ScriptHost.Text

/-! ## Masks -/

theorem toNat_and_mask (x mask : UInt32) (k : Nat) (hmask : mask.toNat = 2 ^ k - 1) :
    (x &&& mask).toNat = x.toNat % 2 ^ k := by
  rw [UInt32.toNat_and, hmask, Nat.and_two_pow_sub_one_eq_mod]

/-- A mask of high bits leaves what the low bits do not make up. -/
theorem toNat_and_highBits (b : UInt8) : (b &&& 0xC0).toNat = b.toNat / 0x40 * 0x40 := by
  have hall : ∀ i : Fin 256, i.val &&& 0xC0 = i.val / 0x40 * 0x40 := by decide +kernel
  rw [UInt8.toNat_and]
  exact hall ⟨b.toNat, b.toNat_lt⟩

theorem toNat_and_lowBits (b : UInt8) : (b &&& 0x3F).toNat = b.toNat % 0x40 := by
  rw [UInt8.toNat_and, show (0x3F : UInt8).toNat = 2 ^ 6 - 1 from rfl,
    Nat.and_two_pow_sub_one_eq_mod]

/-- What a continuation byte is, and its payload. -/
theorem continuation?_eq_mask (b : UInt8) :
    continuation? b = if b &&& 0xC0 = 0x80 then some (b &&& 0x3F).toNat else none := by
  have hmask : b &&& 0xC0 = 0x80 ↔ 0x80 ≤ b.toNat ∧ b.toNat < 0xC0 := by
    rw [← UInt8.toNat_inj, toNat_and_highBits]
    simp only [UInt8.reduceToNat]
    omega
  rw [continuation?, toNat_and_lowBits]
  simp only [hmask]
  split
  · next hb => rw [show b.toNat - 0x80 = b.toNat % 0x40 by omega]
  · rfl

theorem toNat_payload {b : UInt8} {bits : Nat} (k start length : Nat)
    (hmask : ((0x7F : UInt32) >>> UInt32.ofNat length).toNat = 2 ^ k - 1)
    (hb : b.toNat = 2 ^ k * start + bits) (hbits : bits < 2 ^ k) :
    (payload length b).toNat = bits := by
  rw [payload, toNat_and_mask _ _ k hmask, UInt8.toNat_toUInt32, hb, Nat.mul_add_mod,
    Nat.mod_eq_of_lt hbits]

theorem announced_of_lead?_eq_none {b : UInt8} (h : lead? b = none) : announced b = 0 := by
  unfold lead? at h
  simp only [announced, UInt8.le_iff_toNat_le, UInt8.reduceToNat]
  grind

/-- What the first byte announces, for a sequence of one byte and for a longer one. -/
theorem lead?_eq_some_word {b : UInt8} {lead : Lead} (h : lead? b = some lead) :
    announced b = lead.following + 1 ∧
      (lead = ⟨b.toNat, 0, 0⟩ ∧ b.toNat < 0x80 ∨
        2 ≤ announced b ∧ announced b ≤ 4 ∧ lead.bits < 0x20 ∧
        (payload (announced b) b).toNat = lead.bits ∧
        (leastWord (announced b)).toNat = lead.least) := by
  simp only [announced, UInt8.le_iff_toNat_le, UInt8.reduceToNat]
  rcases lead?_eq_some_iff.mp h with ⟨hb, rfl⟩ | ⟨bits, hbits, hb, rfl⟩ | ⟨bits, hbits, hb, rfl⟩ |
    ⟨bits, hbits, hb, rfl⟩
  · rw [if_pos (by omega)]
    exact ⟨rfl, .inl ⟨rfl, hb⟩⟩
  · rw [if_neg (by omega), if_neg (by omega), if_pos (by omega)]
    exact ⟨rfl, .inr ⟨by decide, by decide, hbits, toNat_payload 5 6 2 rfl hb hbits, rfl⟩⟩
  · rw [if_neg (by omega), if_neg (by omega), if_neg (by omega), if_pos (by omega)]
    exact ⟨rfl, .inr ⟨by decide, by decide, Nat.lt_of_lt_of_le hbits (by decide),
      toNat_payload 4 14 3 rfl hb hbits, rfl⟩⟩
  · rw [if_neg (by omega), if_neg (by omega), if_neg (by omega), if_neg (by omega),
      if_pos (by omega)]
    exact ⟨rfl, .inr ⟨by decide, by decide, Nat.lt_of_lt_of_le hbits (by decide),
      toNat_payload 3 30 4 rfl hb hbits, rfl⟩⟩

/-! ## One sequence -/

theorem toNat_shiftLeft_or {code bits : UInt32} (hcode : code.toNat < 2 ^ 26)
    (hbits : bits.toNat < 0x40) : (code <<< 6 ||| bits).toNat = code.toNat * 0x40 + bits.toNat := by
  have hshift : (code <<< 6).toNat = code.toNat <<< 6 := by
    rw [UInt32.toNat_shiftLeft, show (6 : UInt32).toNat % 32 = 6 from rfl, Nat.shiftLeft_eq]
    omega
  rw [UInt32.toNat_or, hshift, ← Nat.shiftLeft_add_eq_or_of_lt hbits, Nat.shiftLeft_eq]

/-- Continuation bytes are taken one by one or all at once, if there is room for their payloads. -/
theorem takeContinuations?_eq_shiftIn? (count : Nat) (code : UInt32) (bytes : List UInt8)
    (hroom : (code.toNat + 1) * 0x40 ^ count ≤ 2 ^ 32) :
    takeContinuations? count code.toNat bytes =
      if bytes.length < count then none
      else (shiftIn? code (bytes.take count)).map fun word => (word.toNat, bytes.drop count) := by
  induction count generalizing code bytes with
  | zero => simp [takeContinuations?, shiftIn?]
  | succ count ih =>
    cases bytes with
    | nil => simp [takeContinuations?]
    | cons b rest =>
      have hbits : (b &&& 0x3F).toUInt32.toNat < 0x40 := by
        rw [UInt8.toNat_toUInt32, toNat_and_lowBits]
        omega
      rw [Nat.pow_succ, ← Nat.mul_assoc, Nat.mul_right_comm] at hroom
      have hcode : (code.toNat + 1) * 0x40 ≤ 2 ^ 32 :=
        Nat.le_trans (Nat.le_mul_of_pos_right _ (Nat.pow_pos (by decide : 0 < 0x40))) hroom
      have hshift : (code <<< 6 ||| (b &&& 0x3F).toUInt32).toNat =
          code.toNat * 0x40 + (b &&& 0x3F).toUInt32.toNat := toNat_shiftLeft_or (by omega) hbits
      have hroom' : ((code <<< 6 ||| (b &&& 0x3F).toUInt32).toNat + 1) * 0x40 ^ count ≤ 2 ^ 32 := by
        rw [hshift]
        exact Nat.le_trans (Nat.mul_le_mul_right _ (by omega)) hroom
      rw [takeContinuations?, continuation?_eq_mask, List.take_succ_cons, List.drop_succ_cons,
        shiftIn?]
      by_cases hb : b &&& 0xC0 = 0x80
      · rw [if_pos hb, if_pos hb]
        dsimp only
        rw [← UInt8.toNat_toUInt32, ← hshift, ih _ rest hroom']
        simp
      · rw [if_neg hb, if_neg hb]
        simp

/-- A sequence is read alike byte by byte and on words. -/
theorem takeSequence?_eq_wordOf? (b : UInt8) (rest : List UInt8) :
    takeSequence? (b :: rest) =
      (wordOf? b rest).map fun code => (code.toNat, rest.drop (announced b - 1)) := by
  rw [takeSequence?, wordOf?]
  cases hlead : lead? b with
  | none => simp [announced_of_lead?_eq_none hlead]
  | some lead =>
    obtain ⟨hlength, ⟨rfl, hb⟩ | ⟨htwo, hfour, hbits, hpayload, hleast⟩⟩ := lead?_eq_some_word hlead
    · simp [hlength, takeContinuations?]
      omega
    · have hroom : ((payload (announced b) b).toNat + 1) * 0x40 ^ lead.following ≤ 2 ^ 32 := by
        rw [hpayload]
        calc (lead.bits + 1) * 0x40 ^ lead.following
          _ ≤ 0x20 * 0x40 ^ 3 := Nat.mul_le_mul hbits (Nat.pow_le_pow_right (by decide) (by omega))
          _ ≤ 2 ^ 32 := by decide
      dsimp only
      rw [← hpayload, takeContinuations?_eq_shiftIn? _ _ _ hroom, hlength, Nat.add_sub_cancel]
      by_cases hshort : rest.length < lead.following
      · rw [if_pos hshort, if_pos (.inr (by omega))]
        rfl
      · rw [if_neg hshort, if_neg (by omega), if_neg (by omega), ← hlength]
        cases hword : shiftIn? (payload (announced b) b) (rest.take lead.following) with
        | none => rfl
        | some word =>
          have hleast' : leastWord (announced b) ≤ word ∧ word ≤ 0x10FFFF ↔
              lead.least ≤ word.toNat ∧ word.toNat < 0x110000 := by
            rw [UInt32.le_iff_toNat_le, UInt32.le_iff_toNat_le, hleast,
              show (0x10FFFF : UInt32).toNat = 0x10FFFF from rfl]
            omega
          simp only [Option.map_some, hleast']
          split <;> rfl

/-! ## All of the text -/

theorem toNat_or_of_lt {high low : UInt16} (k : Nat) (hhigh : high.toNat % 2 ^ k = 0)
    (hlow : low.toNat < 2 ^ k) : (high ||| low).toNat = high.toNat + low.toNat := by
  rw [UInt16.toNat_or, ← Nat.mul_div_cancel' (Nat.dvd_of_mod_eq_zero hhigh),
    Nat.two_pow_add_eq_or_of_lt hlow]

theorem wordUnits_eq_unitsOfCode {code : UInt32} (h : code.toNat < 0x110000) :
    wordUnits code = unitsOfCode code.toNat := by
  have hplane : 0x10000 ≤ code ↔ ¬ code.toNat < 0x10000 := by
    rw [UInt32.le_iff_toNat_le, Nat.not_lt]
    rfl
  unfold wordUnits unitsOfCode
  simp only [hplane]
  by_cases hbasic : code.toNat < 0x10000
  · rw [if_neg (not_not_intro hbasic), if_pos hbasic]
    rfl
  · have habove : (code - 0x10000).toNat = code.toNat - 0x10000 :=
      UInt32.toNat_sub_of_le _ _ (hplane.mpr hbasic)
    have hhigh : ((code - 0x10000) >>> 10).toUInt16.toNat = (code.toNat - 0x10000) / 0x400 := by
      rw [UInt32.toNat_toUInt16, UInt32.toNat_shiftRight, habove,
        show (10 : UInt32).toNat % 32 = 10 from rfl, Nat.shiftRight_eq_div_pow]
      omega
    have hlow : ((code - 0x10000) &&& 0x3FF).toUInt16.toNat = (code.toNat - 0x10000) % 0x400 := by
      rw [UInt32.toNat_toUInt16, toNat_and_mask _ _ 10 rfl, habove]
      omega
    rw [if_pos hbasic, if_neg hbasic, List.cons.injEq, List.cons.injEq, ← UInt16.toNat_inj,
      ← UInt16.toNat_inj, toNat_or_of_lt 10 rfl (by omega), toNat_or_of_lt 10 rfl (by omega), hhigh,
      hlow, toNat_ofNat_of_lt_unit (by omega), toNat_ofNat_of_lt_unit (by omega)]
    exact ⟨rfl, rfl, rfl⟩

/-- **The reading on words is the reading with numbers.** -/
theorem decodeWords_eq_decodeUnits (bytes : List UInt8) : decodeWords bytes =
    decodeUnits bytes := by
  induction bytes using decodeWords.induct with
  | case1 => rw [decodeWords, decodeUnits]
  | case2 b rest code hword ih =>
    have hread := takeSequence?_eq_wordOf? b rest
    rw [hword, Option.map_some] at hread
    rw [decodeWords, hword, decodeUnits_of_takeSequence? hread]
    dsimp only
    rw [ih, wordUnits_eq_unitsOfCode (takeSequence?_eq_some_iff.mp hread).2]
  | case3 b rest hword ih =>
    have hread := takeSequence?_eq_wordOf? b rest
    rw [hword, Option.map_none] at hread
    rw [decodeWords, hword, decodeUnits_of_none hread]
    dsimp only
    rw [ih]

end ScriptHost.Text
