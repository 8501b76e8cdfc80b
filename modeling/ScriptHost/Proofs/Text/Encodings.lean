import ScriptHost.Proofs.Text.Exchange
import ScriptHost.Proofs.Text.Strict
import ScriptHost.Value.Basic

/-!
# One text in several encodings

Host text comes as a string, as 16-bit units, as pairs of bytes, as single bytes, or as bytes that
claim to be UTF-8.  `HostText.Holds text s` says of each encoding which text it is for `s`.

* writing: `littleEndian`, the bytes of units, and `codes`, one byte for each character;
* reading each of them back: `unitsOfBytes_littleEndian_append`, `decode_latin1`;
* all at once: `decode_eq_ok_iff`, host text becomes the string that it holds and no other;
  `encodings_agree`, every encoding of a string gives that string,
  and what is read encodes to what was there.
-/

namespace ScriptHost.Text

/-! ## Pairs of bytes -/

/-- The bytes of units, the low byte of each first. -/
def littleEndian (us : List UInt16) : List UInt8 :=
  us.flatMap fun u => [UInt8.ofNat (u.toNat % 0x100), UInt8.ofNat (u.toNat / 0x100)]

theorem littleEndian_cons (u : UInt16) (us : List UInt16) :
    littleEndian (u :: us) =
      UInt8.ofNat (u.toNat % 0x100) :: UInt8.ofNat (u.toNat / 0x100) :: littleEndian us := rfl

theorem unit_of_bytes (u : UInt16) :
    UInt16.ofNat ((UInt8.ofNat (u.toNat % 0x100)).toNat + 0x100 *
      (UInt8.ofNat (u.toNat / 0x100)).toNat) = u := by
  have hu := u.toNat_lt
  rw [toNat_ofNat_of_lt (by
    omega), toNat_ofNat_of_lt (by omega), Nat.mod_add_div, UInt16.ofNat_toNat]

theorem bytes_of_unit (low high : UInt8) :
    ∃ u : UInt16, UInt16.ofNat (low.toNat + 0x100 * high.toNat) = u ∧
      UInt8.ofNat (u.toNat % 0x100) = low ∧ UInt8.ofNat (u.toNat / 0x100) = high := by
  have hlow := low.toNat_lt
  have hhigh := high.toNat_lt
  have hcode : (UInt16.ofNat (low.toNat + 0x100 * high.toNat)).toNat =
      low.toNat + 0x100 * high.toNat :=
    toNat_ofNat_of_lt_unit (by omega)
  have hmod : (low.toNat + 0x100 * high.toNat) % 0x100 = low.toNat := by omega
  have hdiv : (low.toNat + 0x100 * high.toNat) / 0x100 = high.toNat := by omega
  exact ⟨_, rfl, by rw [hcode, hmod, UInt8.ofNat_toNat], by rw [hcode, hdiv, UInt8.ofNat_toNat]⟩

/-- The bytes of units, with at most one byte behind them, are read as these units. -/
theorem unitsOfBytes_littleEndian_append (us : List UInt16) {odd : List UInt8}
    (hodd : odd.length ≤ 1) :
    unitsOfBytes (littleEndian us ++ odd) = us := by
  induction us with
  | nil =>
    match odd, hodd with
    | [], _ => rfl
    | [_], _ => rfl
  | cons u us ih =>
    rw [littleEndian_cons, List.cons_append, List.cons_append, unitsOfBytes, unit_of_bytes, ih]

/-- All bytes are those of the units that are read of them, with at most one byte behind. -/
theorem exists_odd (bytes : List UInt8) :
    ∃ odd : List UInt8, odd.length ≤ 1 ∧ bytes = littleEndian (unitsOfBytes bytes) ++ odd := by
  fun_induction unitsOfBytes bytes with
  | case1 low high rest ih =>
    obtain ⟨odd, hodd, hrest⟩ := ih
    obtain ⟨u, hu, hlow, hhigh⟩ := bytes_of_unit low high
    refine ⟨odd, hodd, ?_⟩
    rw [hu, littleEndian_cons, hlow, hhigh, List.cons_append, List.cons_append, ← hrest]
  | case2 bytes hshort =>
    refine ⟨bytes, ?_, rfl⟩
    match bytes, hshort with
    | [], _ => exact Nat.zero_le _
    | [_], _ => exact Nat.le_refl _
    | low :: high :: rest, hshort => exact (hshort low high rest rfl).elim

/-! ## Single bytes -/

/-- One byte for each character: its code point, if that fits into a byte. -/
def codes (s : String) : List UInt8 := s.toList.map fun c => UInt8.ofNat c.toNat

/-- Every character fits into one byte. -/
def Narrow (s : String) : Prop := ∀ c ∈ s.toList, c.toNat ≤ 0xFF

theorem toNat_char_of_byte (b : UInt8) : (Char.ofNat b.toNat).toNat = b.toNat := by
  have hb := b.toNat_lt
  exact toNat_ofNat_of_isValidChar (.inl (by omega))

/-- Single bytes become the string of which they are the code points. -/
theorem decode_latin1 {bytes : List UInt8} {s : String} :
    (HostText.latin1 bytes).decode = .ok s ↔ Narrow s ∧ bytes = codes s := by
  rw [HostText.decode, Except.ok.injEq]
  constructor
  · rintro rfl
    refine ⟨fun c hc => ?_, ?_⟩
    · rw [String.toList_ofList, List.mem_map] at hc
      obtain ⟨b, -, rfl⟩ := hc
      have hb := b.toNat_lt
      rw [toNat_char_of_byte]
      omega
    · rw [codes, String.toList_ofList, List.map_map]
      refine (List.map_id'' (fun b => ?_) bytes).symm
      rw [Function.comp_apply, toNat_char_of_byte, UInt8.ofNat_toNat]
  · rintro ⟨hnarrow, rfl⟩
    have hchars : (codes s).map (fun b => Char.ofNat b.toNat) = s.toList := by
      rw [codes, List.map_map]
      refine (List.map_congr_left fun c hc => ?_).trans (List.map_id s.toList)
      have hc := hnarrow c hc
      rw [Function.comp_apply, toNat_ofNat_of_lt (by omega), Char.ofNat_toNat, id]
    rw [hchars, String.ofList_toList]

/-! ## Units -/

/-- Units become the string whose units they are. -/
theorem decode_utf16 {us : List UInt16} {s : String} :
    (HostText.utf16 us).decode = .ok s ↔ us = units s := by
  constructor
  · intro h
    obtain ⟨cs, left, rfl, rfl | ⟨u, rest, rfl, hblocks⟩⟩ := exists_chars us
    · rw [List.append_nil, HostText.decode, pairUnits_unitsOfChars] at h
      cases h
      rw [List.append_nil, units_ofList]
    · have hstop : pairUnits (unitsOfChars cs ++ u :: rest) =
          .error ⟨u, (unitsOfChars cs).length⟩ := by
        simp [pairUnits, pairUnitsFrom_append, pairUnitsFrom_of_blocks hblocks, Except.map]
      rw [HostText.decode, hstop] at h
      cases h
  · rintro rfl
    have hread := pairUnits_unitsOfChars s.toList
    rw [String.ofList_toList] at hread
    rw [HostText.decode]
    change (pairUnits (unitsOfChars s.toList)).mapError _ = _
    rw [hread]
    rfl

/-! ## All encodings -/

/-- The host text holds the string `s` in its own encoding. -/
def HostText.Holds (s : String) : HostText → Prop
  | .string t => t = s
  | .utf16 us => us = units s
  | .latin1 bytes => Narrow s ∧ bytes = codes s
  | .claimedUtf8 bytes => bytes = utf8 s

/-- **Host text becomes the string that it holds**, and no other. -/
theorem decode_eq_ok_iff {text : HostText} {s : String} : text.decode = .ok s ↔ text.Holds s := by
  cases text with
  | string t =>
    rw [HostText.decode, Except.ok.injEq]
    rfl
  | utf16 us => exact decode_utf16
  | latin1 bytes => exact decode_latin1
  | claimedUtf8 bytes =>
    rw [HostText.decode]
    constructor
    · intro h
      cases hread : decodeUtf8 bytes with
      | ok t =>
        rw [hread] at h
        cases h
        exact decodeUtf8_sound hread
      | error n =>
        rw [hread] at h
        cases h
    · rintro rfl
      rw [decodeUtf8_utf8]
      rfl

theorem ofText_eq_ok_iff {text : HostText} {s : String} :
    HostValue.ofText text = .ok (.string s) ↔ text.Holds s := by
  rw [← decode_eq_ok_iff, HostValue.ofText]
  cases text.decode with
  | ok t => simp only [Except.map, Except.ok.injEq, HostValue.string.injEq]
  | error e => simp only [Except.map, reduceCtorEq]

/-- **All encodings of one text agree.**  Every encoding of a string is read as that string: the
string itself, its units, their bytes with or without one byte behind them, its UTF-8, and its code
points as single bytes if they fit; as text and as a host value.  And what is read encodes to just
what was there, pairs of bytes up to an odd byte at the end. -/
theorem encodings_agree (s : String) :
    (∀ text : HostText,
      (text = .string s ∨ text = .utf16 (units s) ∨
        (∃ odd : List UInt8, odd.length ≤ 1 ∧
          text = .ofUtf16Bytes (littleEndian (units s) ++ odd)) ∨
        text = .claimedUtf8 (utf8 s) ∨ (Narrow s ∧ text = .latin1 (codes s))) →
      text.decode = .ok s ∧ HostValue.ofText text = .ok (.string s)) ∧
    (∀ us, (HostText.utf16 us).decode = .ok s → us = units s) ∧
    (∀ bytes, (HostText.ofUtf16Bytes bytes).decode = .ok s →
      ∃ odd : List UInt8, odd.length ≤ 1 ∧ bytes = littleEndian (units s) ++ odd) ∧
    (∀ bytes, (HostText.latin1 bytes).decode = .ok s → Narrow s ∧ bytes = codes s) ∧
    ∀ bytes, (HostText.claimedUtf8 bytes).decode = .ok s → bytes = utf8 s := by
  refine ⟨fun text htext => ?_, fun us h => decode_eq_ok_iff.mp h, fun bytes h => ?_,
    fun bytes h => decode_eq_ok_iff.mp h, fun bytes h => decode_eq_ok_iff.mp h⟩
  · have hholds : text.Holds s := by
      rcases htext with rfl | rfl | ⟨odd, hodd, rfl⟩ | rfl | ⟨hnarrow, rfl⟩
      · exact rfl
      · exact rfl
      · exact unitsOfBytes_littleEndian_append _ hodd
      · exact rfl
      · exact ⟨hnarrow, rfl⟩
    exact ⟨decode_eq_ok_iff.mpr hholds, ofText_eq_ok_iff.mpr hholds⟩
  · have hunits : unitsOfBytes bytes = units s := decode_eq_ok_iff.mp h
    rw [← hunits]
    exact exists_odd bytes

/-- A letter with an accent behind one without: two bytes, three,
or four with an odd one behind them. -/
theorem encodings_agree_accent :
    (HostText.latin1 [0x61, 0xE9]).decode = .ok "aé" ∧
    (HostText.claimedUtf8 [0x61, 0xC3, 0xA9]).decode = .ok "aé" ∧
    (HostText.ofUtf16Bytes [0x61, 0x00, 0xE9, 0x00, 0x21]).decode = .ok "aé" := by
  have hagree := (encodings_agree "aé").1
  have hnarrow : Narrow "aé" := by
    have hlist : "aé".toList = ['a', 'é'] := rfl
    intro c hc
    rw [hlist, List.mem_cons, List.mem_singleton] at hc
    rcases hc with rfl | rfl
    · decide
    · decide
  refine ⟨(hagree _ (.inr (.inr (.inr (.inr ⟨hnarrow, by rfl⟩))))).1,
    (hagree _ (.inr (.inr (.inr (.inl (by rfl)))))).1,
    (hagree _ (.inr (.inr (.inl ⟨[0x21], Nat.le_refl 1, by rfl⟩)))).1⟩

end ScriptHost.Text
