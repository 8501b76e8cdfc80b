import ScriptHost.Proofs.Text.Grammar

/-!
# Strict and lenient reading

Two readers meet the same bytes: the strict one follows the table of well-formed first and second
bytes, the lenient one takes any sequence in its shortest form, halves included, and joins pairs.

* the strict reader: `takeChar?_eq_some_iff`, a character is read off the front exactly if its
  shortest form stands there; `decodeUtf8_cases`, the characters up to the end or
  to a place where none starts;
* the whole of it: `decodeUtf8_eq_ok_iff` and `decodeUtf8_eq_error_iff`, it accepts the bytes of
  strings and otherwise reports the length of the longest string at the front;
* both: `strict_agrees_with_lenient`, where no half is written they cannot be told apart, and on the
  bytes of a string the lenient reading alone finds that string.
-/

namespace ScriptHost.Text

/-! ## One character -/

theorem head?_of_cases {b : UInt8} {head : Head}
    (h : (0xC2 ≤ b.toNat ∧ b.toNat < 0xE0 ∧ head = ⟨b.toNat - 0xC0, 0x80, 0xBF, 0⟩) ∨
      (b.toNat = 0xE0 ∧ head = ⟨0x0, 0xA0, 0xBF, 1⟩) ∨
      (b.toNat = 0xED ∧ head = ⟨0xD, 0x80, 0x9F, 1⟩) ∨
      (0xE0 < b.toNat ∧ b.toNat < 0xF0 ∧ b.toNat ≠ 0xED ∧ head = ⟨b.toNat - 0xE0, 0x80, 0xBF, 1⟩) ∨
      (b.toNat = 0xF0 ∧ head = ⟨0x0, 0x90, 0xBF, 2⟩) ∨
      (0xF0 < b.toNat ∧ b.toNat < 0xF4 ∧ head = ⟨b.toNat - 0xF0, 0x80, 0xBF, 2⟩) ∨
      (b.toNat = 0xF4 ∧ head = ⟨0x4, 0x80, 0x8F, 2⟩)) :
    head? b = some head := by
  simp only [head?, UInt8.lt_iff_toNat_lt, ← UInt8.toNat_inj, UInt8.reduceToNat]
  grind

/-- Two bytes that begin the shortest form of a character are in the table: the first has a row, and
the row allows the second. -/
theorem head?_of_valid {b c : UInt8} {bits more least tail code : Nat}
    (hlead : lead? b = some ⟨bits, more + 1, least⟩) (hc : continuation? c = some tail)
    (hcode : code / 0x40 ^ more = bits * 0x40 + tail) (hleast : least ≤ code)
    (hvalid : code.isValidChar) :
    ∃ low high, head? b = some ⟨bits, low, high, more⟩ ∧ inRange low high c = true ∧
      0x80 ≤ b.toNat := by
  obtain ⟨hc, htail⟩ := continuation?_eq_some_iff.mp hc
  have hhalf := not_half_of_isValidChar hvalid
  have hgreatest := toNat_lt_of_isValidChar hvalid
  simp only [inRange_iff]
  rcases lead?_eq_some_iff.mp hlead with ⟨-, h⟩ | ⟨bits', hlt, hb, h⟩ | ⟨bits', hlt, hb, h⟩ |
    ⟨bits', hlt, hb, h⟩ <;> cases h
  -- Two bytes: an overlong form would have a payload below two.
  · refine ⟨0x80, 0xBF, head?_of_cases (.inl ⟨by omega, by omega, ?_⟩), ?_, by omega⟩
    · rw [hb, Nat.add_sub_cancel_left]
    · simp only [UInt8.reduceToNat]
      omega
  -- Three bytes: overlong forms begin with `0xE0`, halves with `0xED`.
  · by_cases hzero : bits = 0
    · subst hzero
      refine ⟨0xA0, 0xBF, head?_of_cases (.inr (.inl ⟨hb, rfl⟩)), ?_, by omega⟩
      simp only [UInt8.reduceToNat]
      omega
    · by_cases hlast : bits = 0xD
      · subst hlast
        refine ⟨0x80, 0x9F, head?_of_cases (.inr (.inr (.inl ⟨hb, rfl⟩))), ?_, by omega⟩
        simp only [UInt8.reduceToNat]
        omega
      · refine ⟨0x80, 0xBF,
          head?_of_cases (.inr (.inr
            (.inr (.inl ⟨by omega, by omega, by omega, ?_⟩)))), ?_, by omega⟩
        · rw [hb, Nat.add_sub_cancel_left]
        · simp only [UInt8.reduceToNat]
          omega
  -- Four bytes: overlong forms begin with `0xF0`, what is too great with `0xF4` or above.
  · by_cases hzero : bits = 0
    · subst hzero
      refine ⟨0x90, 0xBF, head?_of_cases (.inr (.inr (.inr (.inr (.inl ⟨hb, rfl⟩))))), ?_, by omega⟩
      simp only [UInt8.reduceToNat]
      omega
    · by_cases hlast : bits = 4
      · subst hlast
        refine ⟨0x80, 0x8F,
          head?_of_cases (.inr (.inr (.inr (.inr (.inr (.inr ⟨hb, rfl⟩)))))), ?_, by omega⟩
        simp only [UInt8.reduceToNat]
        omega
      · refine ⟨0x80, 0xBF,
          head?_of_cases (.inr (.inr
            (.inr (.inr (.inr (.inl ⟨by omega, by omega, ?_⟩)))))), ?_, by omega⟩
        · rw [hb, Nat.add_sub_cancel_left]
        · simp only [UInt8.reduceToNat]
          omega

theorem takeChar?_of_lt {b : UInt8} (hb : b.toNat < 0x80) (rest : List UInt8) :
    takeChar? (b :: rest) = some (Char.ofNat b.toNat, rest) := by
  have hb : b < 0x80 := UInt8.lt_iff_toNat_lt.mpr hb
  simp only [takeChar?, if_pos hb]

theorem takeChar?_of_head? {b c : UInt8} {head : Head} (hb : 0x80 ≤ b.toNat)
    (hhead : head? b = some head)
    (hrange : inRange head.low head.high c = true) (rest : List UInt8) :
    takeChar? (b :: c :: rest) =
      (takeTail? head.more (head.bits * 0x40 + (c.toNat - 0x80)) rest).map
      fun (code, behind) => (Char.ofNat code, behind) := by
  have hnot : ¬ b < 0x80 := by
    rw [UInt8.lt_iff_toNat_lt]
    exact Nat.not_lt.mpr hb
  simp only [takeChar?, if_neg hnot, hhead, if_pos hrange]

/-- A sequence of a character is read by the strict reader as well. -/
theorem takeChar?_of_takeSequence? {bytes behind : List UInt8} {code : Nat}
    (h : takeSequence? bytes = some (code, behind)) (hvalid : code.isValidChar) :
    takeChar? bytes = some (Char.ofNat code, behind) := by
  unfold takeSequence? at h
  split at h
  · cases h
  · next b rest =>
    split at h
    · cases h
    · next lead hlead =>
      split at h
      · cases h
      · next code' behind' hread =>
        split at h
        · next hcode =>
          cases h
          obtain ⟨bits, following, least⟩ := lead
          cases following with
          | zero =>
            rcases lead?_eq_some_iff.mp hlead with
              ⟨hb, h⟩ | ⟨_, _, _, h⟩ | ⟨_, _, _, h⟩ | ⟨_, _, _, h⟩ <;>
              cases h
            cases hread
            exact takeChar?_of_lt hb _
          | succ more =>
            cases rest with
            | nil => cases hread
            | cons c rest =>
              simp only [takeContinuations?] at hread
              split at hread
              · next tail hc =>
                have hdiv := (takeContinuations?_eq_some_iff.mp hread).2
                obtain ⟨hbyte, -⟩ := continuation?_eq_some_iff.mp hc
                obtain ⟨low, high, hhead, hrange, hb⟩ := head?_of_valid hlead hc hdiv hcode.1 hvalid
                rw [takeChar?_of_head? hb hhead hrange, takeTail?_eq_takeContinuations?, hbyte,
                  Nat.add_sub_cancel_left, hread]
                rfl
              · cases hread
        · cases h

/-- **A character is read** off the front of some bytes exactly if its shortest
form stands there. -/
theorem takeChar?_eq_some_iff {bytes behind : List UInt8} {c : Char} :
    takeChar? bytes = some (c, behind) ↔ bytes = String.utf8EncodeChar c ++ behind := by
  refine ⟨takeChar?_sound, ?_⟩
  rintro rfl
  have hvalid : c.toNat.isValidChar := c.valid
  have hread : takeSequence? (String.utf8EncodeChar c ++ behind) = some (c.toNat, behind) :=
    takeSequence?_eq_some_iff.mpr
      ⟨by rw [utf8EncodeChar_eq_sequence], toNat_lt_of_isValidChar hvalid⟩
  rw [takeChar?_of_takeSequence? hread hvalid, Char.ofNat_toNat]

/-! ## All characters -/

theorem readUtf8_of_some {bytes behind : List UInt8} {c : Char}
    (h : takeChar? bytes = some (c, behind)) :
    readUtf8 bytes = (readUtf8 behind).map (c :: ·) := by
  cases bytes with
  | nil => cases h
  | cons b rest =>
    rw [readUtf8]
    split
    · next c' behind' h' =>
      rw [h] at h'
      cases h'
      rfl
    · next h' =>
      rw [h] at h'
      cases h'

theorem readUtf8_of_none {bytes : List UInt8} (hne : bytes ≠ []) (h : takeChar? bytes = none) :
    readUtf8 bytes = .error bytes := by
  cases bytes with
  | nil => exact absurd rfl hne
  | cons b rest =>
    rw [readUtf8]
    split
    · next c' behind' h' =>
      rw [h] at h'
      cases h'
    · rfl

theorem readUtf8_append (cs : List Char) (left : List UInt8) :
    readUtf8 (cs.flatMap String.utf8EncodeChar ++ left) = (readUtf8 left).map (cs ++ ·) := by
  induction cs with
  | nil =>
    rw [List.flatMap_nil, List.nil_append]
    cases readUtf8 left <;> rfl
  | cons c cs ih =>
    rw [List.flatMap_cons, List.append_assoc, readUtf8_of_some (takeChar?_eq_some_iff.mpr rfl), ih]
    cases readUtf8 left <;> rfl

/-- Bytes are those of a string, up to their end or to a place where no character starts. -/
theorem exists_string (bytes : List UInt8) :
    ∃ s left, bytes = utf8 s ++ left ∧ (left = [] ∨ takeChar? left = none) := by
  induction hlength : bytes.length using Nat.strongRecOn generalizing bytes with
  | ind n ih =>
    subst hlength
    cases hread : takeChar? bytes with
    | none => exact ⟨"", bytes, rfl, .inr hread⟩
    | some found =>
      obtain ⟨c, behind⟩ := found
      obtain ⟨s, left, hsplit, hleft⟩ := ih _ (takeChar?_length_lt hread) behind rfl
      refine ⟨String.ofList (c :: s.toList), left, ?_, hleft⟩
      rw [takeChar?_sound hread, hsplit, utf8, utf8, String.toList_ofList, List.flatMap_cons,
        List.append_assoc]

theorem decodeUtf8_utf8 (s : String) : decodeUtf8 (utf8 s) = .ok s := by
  have hread := readUtf8_append s.toList []
  rw [List.append_nil, readUtf8] at hread
  simp only [decodeUtf8, utf8, hread, Except.map, List.append_nil, String.ofList_toList]

theorem decodeUtf8_of_none (s : String) {left : List UInt8} (hne : left ≠ [])
    (h : takeChar? left = none) :
    decodeUtf8 (utf8 s ++ left) = .error (utf8 s).length := by
  have hread := readUtf8_append s.toList left
  rw [readUtf8_of_none hne h] at hread
  simp only [decodeUtf8, utf8, hread, Except.map, List.length_append, Nat.add_sub_cancel]

/-- What the strict reader finds: the string whose bytes these are,
or the place where no character starts. -/
theorem decodeUtf8_cases (bytes : List UInt8) :
    (∃ s, bytes = utf8 s ∧ decodeUtf8 bytes = .ok s) ∨
    ∃ s left, bytes = utf8 s ++ left ∧ left ≠ [] ∧ takeChar? left = none ∧
      decodeUtf8 bytes = .error (utf8 s).length := by
  obtain ⟨s, left, rfl, hleft⟩ := exists_string bytes
  rcases Classical.em (left = []) with rfl | hne
  · rw [List.append_nil]
    exact .inl ⟨s, rfl, decodeUtf8_utf8 s⟩
  · have hnone := hleft.resolve_left hne
    exact .inr ⟨s, left, rfl, hne, hnone, decodeUtf8_of_none s hne hnone⟩

/-- **The strict reader accepts the bytes of strings.** -/
theorem decodeUtf8_eq_ok_iff {bytes : List UInt8} {s : String} :
    decodeUtf8 bytes = .ok s ↔ utf8 s = bytes := by
  refine ⟨fun h => (decodeUtf8_sound h).symm, ?_⟩
  rintro rfl
  exact decodeUtf8_utf8 s

/-- The bytes of a string stand at the front, `n` of them, and those of no longer one. -/
structure LongestString (bytes : List UInt8) (n : Nat) : Prop where
  string : ∃ s, utf8 s <+: bytes ∧ (utf8 s).length = n
  longest : ∀ s, utf8 s <+: bytes → (utf8 s).length ≤ n

theorem LongestString.unique {bytes : List UInt8} {n m : Nat} (h : LongestString bytes n)
    (h' : LongestString bytes m) : n = m := by
  obtain ⟨s, hs, rfl⟩ := h.string
  obtain ⟨t, ht, rfl⟩ := h'.string
  exact Nat.le_antisymm (h'.longest s hs) (h.longest t ht)

/-- Behind a string at the front of a string there is a string. -/
theorem exists_chars_behind {s t : String} {more : List UInt8} (h : utf8 s ++ more = utf8 t) :
    ∃ cs : List Char, more = cs.flatMap String.utf8EncodeChar := by
  have hread := readUtf8_append t.toList []
  rw [List.append_nil, readUtf8] at hread
  change readUtf8 (utf8 t) = _ at hread
  rw [← h, utf8, readUtf8_append] at hread
  cases hmore : readUtf8 more with
  | ok cs => exact ⟨cs, readUtf8_sound hmore⟩
  | error left =>
    rw [hmore] at hread
    cases hread

/-- No string reaches beyond a place where no character starts. -/
theorem longestString_of_none (s : String) {left : List UInt8} (h : takeChar? left = none) :
    LongestString (utf8 s ++ left) (utf8 s).length where
  string := ⟨s, List.prefix_append .., rfl⟩
  longest t ht := by
    rcases Nat.le_total (utf8 t).length (utf8 s).length with hle | hle
    · exact hle
    · obtain ⟨more, hmore⟩ := List.prefix_of_prefix_length_le (List.prefix_append ..) ht hle
      obtain ⟨cs, rfl⟩ := exists_chars_behind hmore
      cases cs with
      | nil =>
        refine Nat.le_of_eq ?_
        rw [← hmore, List.flatMap_nil, List.append_nil]
      | cons c cs =>
        rw [← hmore] at ht
        obtain ⟨behind, rfl⟩ := (List.prefix_append_right_inj (utf8 s)).mp ht
        rw [List.flatMap_cons, List.append_assoc, takeChar?_eq_some_iff.mpr rfl] at h
        cases h

/-- **The strict reader reports the longest string** at the front of all other bytes. -/
theorem decodeUtf8_eq_error_iff {bytes : List UInt8} {n : Nat} :
    decodeUtf8 bytes = .error n ↔ (∀ s, utf8 s ≠ bytes) ∧ LongestString bytes n := by
  rcases decodeUtf8_cases bytes with ⟨s, rfl, hread⟩ | ⟨s, left, rfl, hne, hnone, hread⟩
  · rw [hread]
    refine ⟨fun h => (by cases h), fun h => absurd rfl (h.1 s)⟩
  · have hlongest := longestString_of_none s hnone
    rw [hread, Except.error.injEq]
    constructor
    · rintro rfl
      refine ⟨fun t ht => ?_, hlongest⟩
      have hlength := hlongest.longest t (ht ▸ List.prefix_refl _)
      rw [ht, List.length_append] at hlength
      exact hne (List.length_eq_zero_iff.mp (by omega))
    · exact fun h => hlongest.unique h.2

/-! ## Both readers -/

/-- No half is written in the bytes: its three bytes stand nowhere. -/
def HalfFree (bytes : List UInt8) : Prop :=
  ∀ second third : UInt8, 0xA0 ≤ second → second ≤ 0xBF → 0x80 ≤ third → third ≤ 0xBF →
    ¬ [0xED, second, third] <:+: bytes

/-- The three bytes of a half. -/
theorem encodeUnit_of_isHalf {u : UInt16} (h : isHalf u = true) :
    ∃ second third : UInt8, encodeUnit u = [0xED, second, third] ∧
      0xA0 ≤ second ∧ second ≤ 0xBF ∧ 0x80 ≤ third ∧ third ≤ 0xBF := by
  obtain ⟨hlow, hhigh⟩ := isHalf_iff.mp h
  have hsecond : (UInt8.ofNat (0x80 + u.toNat / 0x40 % 0x40)).toNat =
      0x80 + u.toNat / 0x40 % 0x40 :=
    toNat_ofNat_of_lt (by omega)
  have hthird : (UInt8.ofNat (0x80 + u.toNat % 0x40)).toNat = 0x80 + u.toNat % 0x40 :=
    toNat_ofNat_of_lt (by omega)
  have hfirst : 0xE0 + u.toNat / 0x1000 = 0xED := by omega
  refine ⟨UInt8.ofNat (0x80 + u.toNat / 0x40 % 0x40), UInt8.ofNat (0x80 + u.toNat % 0x40), ?_, ?_⟩
  · dsimp only [encodeUnit]
    rw [if_neg (by omega), if_neg (by omega), hfirst]
    rfl
  · simp only [UInt8.le_iff_toNat_le, hsecond, hthird, UInt8.reduceToNat]
    omega

/-- Where no half is written and no character starts, no sequence starts. -/
theorem takeCode_of_halfFree {bytes : List UInt8} (hfree : HalfFree bytes)
    (h : takeChar? bytes = none) :
    takeCode bytes = .error none := by
  cases hread : takeSequence? bytes with
  | none => simp only [takeCode, hread]
  | some found =>
    obtain ⟨code, behind⟩ := found
    rcases eq_of_takeSequence? hread with ⟨-, -, rfl⟩ | ⟨hlow, hhigh, rfl⟩
    · rw [takeChar?_eq_some_iff.mpr rfl] at h
      cases h
    · have hhalf : isHalf (UInt16.ofNat code) = true := by
        rw [isHalf_iff, toNat_ofNat_of_lt_unit (by omega)]
        exact ⟨hlow, hhigh⟩
      obtain ⟨second, third, hbytes, h₁, h₂, h₃, h₄⟩ := encodeUnit_of_isHalf hhalf
      rw [hbytes] at hfree
      exact absurd (List.prefix_append ..).isInfix (hfree second third h₁ h₂ h₃ h₄)

theorem HalfFree.of_suffix {bytes left : List UInt8} (h : HalfFree bytes) (hleft : left <:+ bytes) :
    HalfFree left := by
  intro second third h₁ h₂ h₃ h₄ hin
  exact h second third h₁ h₂ h₃ h₄ (hin.trans hleft.isInfix)

/-- **Strict and lenient reading agree away from halves.**  The strict reader accepts the bytes of
strings, and otherwise reports the length of the longest string at the front.  On bytes in which no
half is written the lenient one gives the same string or blames the same place; and on the bytes of
a string the joining of pairs, with nothing tried before it, finds that string. -/
theorem strict_agrees_with_lenient (bytes : List UInt8) :
    (∀ s, decodeUtf8 bytes = .ok s ↔ utf8 s = bytes) ∧
    (∀ n, decodeUtf8 bytes = .error n ↔ (∀ s, utf8 s ≠ bytes) ∧ LongestString bytes n) ∧
    (HalfFree bytes → (HostText.claimedUtf8 bytes).decode = fromEngineText bytes) ∧
    ∀ s, decodeUtf8 bytes = .ok s → (pairSequences bytes).map String.ofList = .ok s := by
  refine ⟨fun s => decodeUtf8_eq_ok_iff, fun n => decodeUtf8_eq_error_iff, fun hfree =>
    ?_, fun s h => ?_⟩
  · rcases decodeUtf8_cases bytes with ⟨s, rfl, hread⟩ | ⟨s, left, rfl, hne, hnone, hread⟩
    · simp only [HostText.decode, fromEngineText, hread]
      rfl
    · have hblocked := takeCode_of_halfFree (hfree.of_suffix (List.suffix_append ..)) hnone
      rw [fromEngineText_eq, pairSequences_append (tokens_utf8 s),
        pairSequences_of_error hne hblocked]
      simp only [HostText.decode, hread]
      exact congrArg Except.error (by simp [Blockage.error])
  · obtain rfl := decodeUtf8_sound h
    rw [pairSequences_of_tokens (tokens_utf8 s)]
    simp only [Except.map, String.ofList_toList]

/-- A letter in front of a sequence beyond the last character:
both readers blame the second byte. -/
theorem strict_agrees_with_lenient_beyond :
    HalfFree [0x61, 0xF4, 0x90, 0x80, 0x80] ∧
    (HostText.claimedUtf8 [0x61, 0xF4, 0x90, 0x80, 0x80]).decode =
      fromEngineText [0x61, 0xF4, 0x90, 0x80, 0x80] ∧
    decodeUtf8 [0x61, 0xF4, 0x90, 0x80, 0x80] = .error 1 := by
  have hfree : HalfFree [0x61, 0xF4, 0x90, 0x80, 0x80] := by
    intro second third _ _ _ _ hin
    have hmem := hin.subset List.mem_cons_self
    simp at hmem
  exact ⟨hfree, (strict_agrees_with_lenient _).2.2.1 hfree, by with_unfolding_all rfl⟩

end ScriptHost.Text
