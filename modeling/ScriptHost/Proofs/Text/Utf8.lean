import ScriptHost.Proofs.Text.Sequence

/-!
# Well-formed bytes are written characters

The table of first and second bytes admits no sequence but the shortest form of a character, so
bytes that are accepted as UTF-8 are those of a string: `takeChar?_sound`, `decodeUtf8_sound`.
-/

namespace ScriptHost.Text

theorem toNat_ofNat_of_isValidChar {n : Nat} (h : n.isValidChar) : (Char.ofNat n).toNat = n := by
  rw [Char.ofNat, dif_pos h]
  rfl

theorem inRange_iff {low high b : UInt8} :
    inRange low high b = true ↔ low.toNat ≤ b.toNat ∧ b.toNat ≤ high.toNat := by
  simp only [inRange, Bool.and_eq_true, decide_eq_true_eq, UInt8.le_iff_toNat_le]

/-- The two readers agree on continuation bytes. -/
theorem takeTail?_eq_takeContinuations? (count code : Nat) (bytes : List UInt8) :
    takeTail? count code bytes = takeContinuations? count code bytes := by
  induction count generalizing code bytes with
  | zero => cases bytes <;> rfl
  | succ count ih =>
    cases bytes with
    | nil => rfl
    | cons b rest =>
      simp only [takeTail?, takeContinuations?, continuation?, inRange_iff]
      by_cases hb : 0x80 ≤ b.toNat ∧ b.toNat < 0xC0
      · rw [if_pos hb, if_pos ⟨hb.1, by have := hb.2; simp; omega⟩]
        exact ih _ rest
      · rw [if_neg hb, if_neg (fun h => hb ⟨h.1, by have := h.2; simp at this; omega⟩)]

theorem head?_cases {b : UInt8} {head : Head} (h : head? b = some head) :
    (0xC2 ≤ b.toNat ∧ b.toNat < 0xE0 ∧ head = ⟨b.toNat - 0xC0, 0x80, 0xBF, 0⟩) ∨
    (b.toNat = 0xE0 ∧ head = ⟨0x0, 0xA0, 0xBF, 1⟩) ∨
    (b.toNat = 0xED ∧ head = ⟨0xD, 0x80, 0x9F, 1⟩) ∨
    (0xE0 < b.toNat ∧ b.toNat < 0xF0 ∧ b.toNat ≠ 0xED ∧ head = ⟨b.toNat - 0xE0, 0x80, 0xBF, 1⟩) ∨
    (b.toNat = 0xF0 ∧ head = ⟨0x0, 0x90, 0xBF, 2⟩) ∨
    (0xF0 < b.toNat ∧ b.toNat < 0xF4 ∧ head = ⟨b.toNat - 0xF0, 0x80, 0xBF, 2⟩) ∨
    (b.toNat = 0xF4 ∧ head = ⟨0x4, 0x80, 0x8F, 2⟩) := by
  simp only [head?, UInt8.lt_iff_toNat_lt, ← UInt8.toNat_inj, UInt8.reduceToNat] at h
  grind

/-- A row of the table admits code points of characters only, each in its shortest form. -/
theorem valid_of_head? {b c : UInt8} {head : Head} {code : Nat} (hhead : head? b = some head)
    (hc : inRange head.low head.high c = true)
    (hcode : code / 0x40 ^ head.more = head.bits * 0x40 + (c.toNat - 0x80)) :
    code.isValidChar ∧ continuation? c = some (c.toNat - 0x80) ∧
      ∃ least, least ≤ code ∧ lead? b = some ⟨head.bits, head.more + 1, least⟩ := by
  have hcontinuation (hlow : 0x80 ≤ c.toNat) (hhigh : c.toNat ≤ 0xBF) :
      continuation? c = some (c.toNat - 0x80) := if_pos ⟨hlow, by omega⟩
  simp only [inRange_iff] at hc
  simp only [lead?_eq_some_iff, Nat.isValidChar]
  rcases head?_cases hhead with ⟨_, _, rfl⟩ | ⟨_, rfl⟩ | ⟨_, rfl⟩ | ⟨_, _, _, rfl⟩ | ⟨_, rfl⟩ |
    ⟨_, _, rfl⟩ | ⟨_, rfl⟩
  all_goals
    simp only [UInt8.reduceToNat, Nat.reducePow, Nat.div_one] at hc hcode
    refine ⟨by omega, hcontinuation (by omega) (by omega), ?_⟩
    dsimp only
  · exact ⟨0x80, by omega, .inr (.inl ⟨_, by omega, by omega, rfl⟩)⟩
  · exact ⟨0x800, by omega, .inr (.inr (.inl ⟨_, by omega, by omega, rfl⟩))⟩
  · exact ⟨0x800, by omega, .inr (.inr (.inl ⟨_, by omega, by omega, rfl⟩))⟩
  · exact ⟨0x800, by omega, .inr (.inr (.inl ⟨_, by omega, by omega, rfl⟩))⟩
  · exact ⟨0x10000, by omega, .inr (.inr (.inr ⟨_, by omega, by omega, rfl⟩))⟩
  · exact ⟨0x10000, by omega, .inr (.inr (.inr ⟨_, by omega, by omega, rfl⟩))⟩
  · exact ⟨0x10000, by omega, .inr (.inr (.inr ⟨_, by omega, by omega, rfl⟩))⟩

/-- A character that is read stands there in its shortest form. -/
theorem takeChar?_sound {bytes behind : List UInt8} {c : Char}
    (h : takeChar? bytes = some (c, behind)) :
    bytes = String.utf8EncodeChar c ++ behind := by
  rw [utf8EncodeChar_eq_sequence]
  unfold takeChar? at h
  split at h
  · cases h
  · next b rest =>
    split at h
    · next hb =>
      have hb : b.toNat < 0x80 := UInt8.lt_iff_toNat_lt.mp hb
      cases h
      rw [toNat_ofNat_of_isValidChar (.inl (by omega)), sequence, if_pos hb, UInt8.ofNat_toNat]
      rfl
    · split at h
      · next head second rest hhead =>
        split at h
        · next hrange =>
          obtain ⟨⟨code, rest'⟩, htail, heq⟩ := Option.map_eq_some_iff.mp h
          cases heq
          rw [takeTail?_eq_takeContinuations?] at htail
          have hcode := (takeContinuations?_eq_some_iff.mp htail).2
          obtain ⟨hvalid, hsecond, least, hleast, hlead⟩ := valid_of_head? hhead hrange hcode
          have hcodelt := toNat_lt_of_isValidChar hvalid
          -- The reader of sequences takes the same steps.
          have hread : takeSequence? (b :: second :: rest) = some (code, behind) := by
            simp only [takeSequence?, hlead, takeContinuations?, hsecond, htail]
            exact if_pos ⟨hleast, hcodelt⟩
          rw [toNat_ofNat_of_isValidChar hvalid]
          exact (takeSequence?_eq_some_iff.mp hread).1
        · cases h
      · cases h

/-- What is accepted as UTF-8 are the bytes of a string. -/
theorem readUtf8_sound {bytes : List UInt8} {cs : List Char} (h : readUtf8 bytes = .ok cs) :
    bytes = cs.flatMap String.utf8EncodeChar := by
  fun_induction readUtf8 bytes generalizing cs with
  | case1 => cases h; rfl
  | case2 b rest c behind hread ih =>
    cases hbehind : readUtf8 behind with
    | error left => rw [hbehind] at h; cases h
    | ok cs' =>
      rw [hbehind] at h
      cases h
      rw [List.flatMap_cons, ← ih hbehind]
      exact takeChar?_sound hread
  | case3 b rest hread => cases h

theorem decodeUtf8_sound {bytes : List UInt8} {s : String} (h : decodeUtf8 bytes = .ok s) :
    bytes = utf8 s := by
  unfold decodeUtf8 at h
  split at h
  · next cs hcs =>
    cases h
    rw [readUtf8_sound hcs, utf8, String.toList_ofList]
  · cases h

end ScriptHost.Text
