import Mathlib.Algebra.Group.Nat.Defs
import ScriptHost.Text.HostText

/-!
# Sequences of bytes

`sequence code` is the shortest sequence of bytes for a code point, by the same rule for the halves
of pairs as for characters.  It is what both writers produce and what the reader of
sequences accepts.

* writing: `encodeUnit_eq_sequence`, `utf8EncodeChar_eq_sequence`;
* reading: `takeSequence?_eq_some_iff`, a sequence is read off the front exactly if it stands there.
-/

namespace ScriptHost.Text

/-! ## Continuation bytes -/

/-- The last `count` groups of six bits of a code point, as continuation bytes. -/
def continuations : (count code : Nat) → List UInt8
  | 0, _ => []
  | count + 1, code => UInt8.ofNat (0x80 + code / 0x40 ^ count % 0x40) :: continuations count code

theorem toNat_ofNat_of_lt {n : Nat} (h : n < 0x100) : (UInt8.ofNat n).toNat = n := by
  rw [UInt8.toNat_ofNat']
  exact Nat.mod_eq_of_lt h

theorem continuation?_eq_some_iff {b : UInt8} {bits : Nat} :
    continuation? b = some bits ↔ b.toNat = 0x80 + bits ∧ bits < 0x40 := by
  unfold continuation?
  split
  · rw [Option.some.injEq]
    omega
  · simp only [reduceCtorEq, false_iff]
    omega

/-- Continuation bytes are read behind a payload exactly if they spell a code point that begins with
it. -/
theorem takeContinuations?_eq_some_iff {count start code : Nat} {bytes behind : List UInt8} :
    takeContinuations? count start bytes = some (code, behind) ↔
      bytes = continuations count code ++ behind ∧ code / 0x40 ^ count = start := by
  induction count generalizing start bytes with
  | zero =>
    simp only [takeContinuations?, continuations, Option.some.injEq, Prod.mk.injEq, Nat.pow_zero,
      Nat.div_one, List.nil_append]
    exact ⟨fun h => ⟨h.2, h.1.symm⟩, fun h => ⟨h.2.symm, h.1⟩⟩
  | succ count ih =>
    have hdiv : code / 0x40 ^ (count + 1) = code / 0x40 ^ count / 0x40 := by
      rw [Nat.pow_succ, Nat.div_div_eq_div_mul]
    have hbyte : (UInt8.ofNat (0x80 + code / 0x40 ^ count % 0x40)).toNat =
        0x80 + code / 0x40 ^ count % 0x40 := toNat_ofNat_of_lt (by omega)
    rw [hdiv]
    cases bytes with
    | nil => simp [takeContinuations?, continuations]
    | cons b rest =>
      simp only [takeContinuations?, continuations, List.cons_append, List.cons.injEq,
        ← UInt8.toNat_inj, hbyte]
      cases hb : continuation? b with
      | none =>
        have hnone : ¬ (b.toNat = 0x80 + code / 0x40 ^ count % 0x40) := fun h => by
          rw [continuation?_eq_some_iff.mpr ⟨h, by omega⟩] at hb
          cases hb
        simp [hnone]
      | some bits =>
        obtain ⟨hb, hbits⟩ := continuation?_eq_some_iff.mp hb
        dsimp only
        rw [ih]
        constructor
        · rintro ⟨hrest, hcode⟩
          exact ⟨⟨by omega, hrest⟩, by omega⟩
        · rintro ⟨⟨h, hrest⟩, hcode⟩
          exact ⟨hrest, by omega⟩

/-! ## Sequences -/

/-- The shortest sequence of bytes for a code point. -/
def sequence (code : Nat) : List UInt8 :=
  if code < 0x80 then [UInt8.ofNat code]
  else if code < 0x800 then UInt8.ofNat (0xC0 + code / 0x40) :: continuations 1 code
  else if code < 0x10000 then UInt8.ofNat (0xE0 + code / 0x1000) :: continuations 2 code
  else UInt8.ofNat (0xF0 + code / 0x40000) :: continuations 3 code

theorem encodeUnit_eq_sequence (u : UInt16) : encodeUnit u = sequence u.toNat := by
  have hu : u.toNat < 0x10000 := u.toNat_lt
  simp only [encodeUnit, sequence, continuations, if_pos hu]
  simp

theorem toNat_lt_of_isValidChar {n : Nat} (h : n.isValidChar) : n < 0x110000 := by
  rcases h with h | h <;> omega

theorem utf8EncodeChar_eq_sequence (c : Char) : String.utf8EncodeChar c = sequence c.toNat := by
  have hc : c.toNat < 0x110000 := toNat_lt_of_isValidChar c.valid
  change c.val.toNat < _ at hc
  show String.utf8EncodeChar c = sequence c.val.toNat
  unfold String.utf8EncodeChar
  generalize c.val.toNat = n at hc
  simp only [sequence, continuations, Nat.reducePow, Nat.div_one]
  by_cases h₁ : n < 0x80
  · rw [if_pos h₁, if_pos (by omega)]
  · rw [if_neg h₁, if_neg (by omega)]
    by_cases h₂ : n < 0x800
    · rw [if_pos h₂, if_pos (by omega)]
      simp only [List.cons.injEq, and_true]
      exact ⟨congrArg _ (by omega), congrArg _ (by omega)⟩
    · rw [if_neg h₂, if_neg (by omega)]
      by_cases h₃ : n < 0x10000
      · rw [if_pos h₃, if_pos (by omega)]
        simp only [List.cons.injEq, and_true]
        exact ⟨congrArg _ (by omega), congrArg _ (by omega), congrArg _ (by omega)⟩
      · rw [if_neg h₃, if_neg (by omega)]
        simp only [List.cons.injEq, and_true]
        exact ⟨congrArg _ (by omega), congrArg _ (by omega), congrArg _ (by omega),
          congrArg _ (by omega)⟩

/-- The first byte of a sequence: how many continuation bytes it announces, and its payload. -/
theorem lead?_eq_some_iff {b : UInt8} {lead : Lead} :
    lead? b = some lead ↔
      (b.toNat < 0x80 ∧ lead = ⟨b.toNat, 0, 0⟩) ∨
      (∃ bits, bits < 0x20 ∧ b.toNat = 0xC0 + bits ∧ lead = ⟨bits, 1, 0x80⟩) ∨
      (∃ bits, bits < 0x10 ∧ b.toNat = 0xE0 + bits ∧ lead = ⟨bits, 2, 0x800⟩) ∨
      ∃ bits, bits < 0x08 ∧ b.toNat = 0xF0 + bits ∧ lead = ⟨bits, 3, 0x10000⟩ := by
  constructor
  · intro h
    unfold lead? at h
    grind
  · rintro (⟨hb, rfl⟩ | ⟨bits, hbits, hb, rfl⟩ | ⟨bits, hbits, hb, rfl⟩ | ⟨bits, hbits, hb, rfl⟩)
    all_goals
      unfold lead?
      grind

/-- A code point begins with the payload that a first byte announces. -/
structure Lead.Opens (lead : Lead) (code : Nat) : Prop where
  bits : code / 0x40 ^ lead.following = lead.bits
  least : lead.least ≤ code
  greatest : code < 0x110000

theorem sequence_eq_of_opens {b : UInt8} {lead : Lead} {code : Nat} (hlead : lead? b = some lead)
    (h : lead.Opens code) : sequence code = b :: continuations lead.following code := by
  obtain ⟨hbits, hleast, -⟩ := h
  have hbyte {n : Nat} (hn : b.toNat = n) : UInt8.ofNat n = b := by rw [← hn, UInt8.ofNat_toNat]
  rcases lead?_eq_some_iff.mp hlead with ⟨hb, rfl⟩ | ⟨bits, hlt, hb, rfl⟩ | ⟨bits, hlt, hb, rfl⟩ |
    ⟨bits, hlt, hb, rfl⟩
  all_goals
    simp only [Nat.reducePow, Nat.div_one] at hbits hleast
    rw [sequence]
  · rw [if_pos (by omega), hbyte hbits.symm]
    rfl
  · rw [if_neg (by omega), if_pos (by omega), hbyte (by omega)]
  · rw [if_neg (by omega), if_neg (by omega), if_pos (by omega), hbyte (by omega)]
  · rw [if_neg (by omega), if_neg (by omega), if_neg (by omega), hbyte (by omega)]

/-- Every code point has a first byte. -/
theorem exists_lead {code : Nat} (h : code < 0x110000) :
    ∃ b lead, lead? b = some lead ∧ lead.Opens code := by
  by_cases h₁ : code < 0x80
  · have hb : (UInt8.ofNat code).toNat = code := toNat_ofNat_of_lt (by omega)
    exact ⟨UInt8.ofNat code, ⟨code, 0, 0⟩, lead?_eq_some_iff.mpr (.inl ⟨by omega, by rw [hb]⟩),
      by simp, by simp, h⟩
  by_cases h₂ : code < 0x800
  · exact ⟨UInt8.ofNat (0xC0 + code / 0x40), ⟨code / 0x40, 1, 0x80⟩,
      lead?_eq_some_iff.mpr (.inr (.inl ⟨_, by omega, toNat_ofNat_of_lt (by omega), rfl⟩)),
      by simp, by simpa using h₁, h⟩
  by_cases h₃ : code < 0x10000
  · exact ⟨UInt8.ofNat (0xE0 + code / 0x1000), ⟨code / 0x1000, 2, 0x800⟩,
      lead?_eq_some_iff.mpr (.inr (.inr (.inl ⟨_, by omega, toNat_ofNat_of_lt (by omega), rfl⟩))),
      by simp, by simpa using h₂, h⟩
  · exact ⟨UInt8.ofNat (0xF0 + code / 0x40000), ⟨code / 0x40000, 3, 0x10000⟩,
      lead?_eq_some_iff.mpr (.inr (.inr (.inr ⟨_, by omega, toNat_ofNat_of_lt (by omega), rfl⟩))),
      by simp, by simpa using h₃, h⟩

/-- **A sequence is read** off the front of some bytes exactly if it stands there. -/
theorem takeSequence?_eq_some_iff {bytes behind : List UInt8} {code : Nat} :
    takeSequence? bytes = some (code, behind) ↔
      bytes = sequence code ++ behind ∧ code < 0x110000 := by
  constructor
  · intro h
    unfold takeSequence? at h
    split at h
    · cases h
    · next b rest =>
      split at h
      · cases h
      · next lead hlead =>
        split at h
        · cases h
        · next code' behind' htail =>
          split at h
          · next hcode =>
            cases h
            obtain ⟨rfl, hbits⟩ := takeContinuations?_eq_some_iff.mp htail
            rw [sequence_eq_of_opens hlead ⟨hbits, hcode.1, hcode.2⟩]
            exact ⟨rfl, hcode.2⟩
          · cases h
  · rintro ⟨rfl, hcode⟩
    obtain ⟨b, lead, hlead, hopens⟩ := exists_lead hcode
    have htail := takeContinuations?_eq_some_iff.mpr
      ⟨(rfl : _ = continuations lead.following code ++ behind), hopens.bits⟩
    rw [sequence_eq_of_opens hlead hopens, List.cons_append, takeSequence?]
    simp only [hlead, htail]
    rw [if_pos ⟨hopens.least, hcode⟩]

end ScriptHost.Text
