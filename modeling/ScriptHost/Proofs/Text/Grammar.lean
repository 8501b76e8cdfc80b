import ScriptHost.Proofs.Text.Utf8

/-!
# The grammar of engine text

Engine text is a row of tokens (`Token`, `Tokens`): a character in its shortest form, or the three
bytes of a high half followed by those of a low half.

* one token: `takeCode_append` and `token_of_takeCode`, what is read off the front is a token;
  `charOfCode?_of_takeCode`, and it is always a character;
* all tokens: `exists_tokens`, and `pairSequences_tokens` for what is read of them;
* the whole reading: `fromEngineText_reads_tokens`, it accepts exactly the rows of tokens, and
  otherwise blames the end of the longest row of tokens at the front.
-/

namespace ScriptHost.Text

/-! ## Halves -/

theorem isHigh_iff {u : UInt16} : isHigh u = true ↔ 0xD800 ≤ u.toNat ∧ u.toNat < 0xDC00 := by
  simp only [isHigh, Bool.and_eq_true, decide_eq_true_eq, UInt16.le_iff_toNat_le,
    UInt16.lt_iff_toNat_lt, UInt16.reduceToNat]

theorem isLow_iff {u : UInt16} : isLow u = true ↔ 0xDC00 ≤ u.toNat ∧ u.toNat < 0xE000 := by
  simp only [isLow, Bool.and_eq_true, decide_eq_true_eq, UInt16.le_iff_toNat_le,
    UInt16.lt_iff_toNat_lt, UInt16.reduceToNat]

theorem isHalf_iff {u : UInt16} : isHalf u = true ↔ 0xD800 ≤ u.toNat ∧ u.toNat < 0xE000 := by
  simp only [isHalf, Bool.or_eq_true, isHigh_iff, isLow_iff]
  omega

theorem toNat_ofNat_of_lt_unit {n : Nat} (h : n < 0x10000) : (UInt16.ofNat n).toNat = n := by
  rw [UInt16.toNat_ofNat']
  exact Nat.mod_eq_of_lt h

theorem not_half_of_isValidChar {n : Nat} (h : n.isValidChar) : n < 0xD800 ∨ 0xE000 ≤ n := by
  rcases h with h | h <;> omega

theorem pairCode_bounds {high low : UInt16} (hhigh : isHigh high = true) (hlow : isLow low = true) :
    0x10000 ≤ pairCode high low ∧ pairCode high low < 0x110000 := by
  rw [isHigh_iff] at hhigh
  rw [isLow_iff] at hlow
  unfold pairCode
  omega

theorem isValidChar_pairCode {high low : UInt16} (hhigh : isHigh high = true)
    (hlow : isLow low = true) : (pairCode high low).isValidChar := by
  obtain ⟨hleast, hgreatest⟩ := pairCode_bounds hhigh hlow
  exact .inr ⟨by omega, hgreatest⟩

theorem takeSequence?_encodeUnit (u : UInt16) (behind : List UInt8) :
    takeSequence? (encodeUnit u ++ behind) = some (u.toNat, behind) := by
  have hu := u.toNat_lt
  rw [takeSequence?_eq_some_iff, encodeUnit_eq_sequence]
  exact ⟨rfl, by omega⟩

/-! ## Tokens -/

/-- A token, and the character that it stands for. -/
inductive Token : List UInt8 → Char → Prop
  /-- The shortest form of a character, one to four bytes. -/
  | plain (c : Char) : Token (String.utf8EncodeChar c) c
  /-- The three bytes of a high half, and those of a low half. -/
  | pair {high low : UInt16} (hhigh : isHigh high = true) (hlow : isLow low = true) :
    Token (encodeUnit high ++ encodeUnit low) (Char.ofNat (pairCode high low))

/-- Tokens one after the other, and their characters. -/
inductive Tokens : List UInt8 → List Char → Prop
  | nil : Tokens [] []
  | cons {token rest : List UInt8} {c : Char} {cs : List Char} (first : Token token c)
    (others : Tokens rest cs) : Tokens (token ++ rest) (c :: cs)

theorem tokens_utf8 (s : String) : Tokens (utf8 s) s.toList := by
  unfold utf8
  induction s.toList with
  | nil => exact .nil
  | cons c cs ih => exact .cons (.plain c) ih

theorem encodeUnit_ne_nil (u : UInt16) : encodeUnit u ≠ [] := by
  unfold encodeUnit
  dsimp only
  split
  · simp
  · split <;> simp

theorem Token.ne_nil {token : List UInt8} {c : Char} (h : Token token c) : token ≠ [] := by
  cases h with
  | plain => exact String.utf8EncodeChar_ne_nil
  | pair hhigh hlow => simp [encodeUnit_ne_nil]

/-! ## One token -/

/-- A token at the front is read. -/
theorem takeCode_append {token : List UInt8} {c : Char} (h : Token token c) (behind : List UInt8) :
    ∃ here, takeCode (token ++ behind) = .ok ⟨c.toNat, here, behind⟩ := by
  cases h with
  | plain =>
    have hvalid : c.toNat.isValidChar := c.valid
    have hhalf := not_half_of_isValidChar hvalid
    have hread : takeSequence? (String.utf8EncodeChar c ++ behind) = some (c.toNat, behind) :=
      takeSequence?_eq_some_iff.mpr
        ⟨by rw [utf8EncodeChar_eq_sequence], toNat_lt_of_isValidChar hvalid⟩
    refine ⟨String.utf8EncodeChar c ++ behind, ?_⟩
    simp only [takeCode, hread]
    rw [if_neg (by omega), if_neg (by omega)]
  | @pair high low hhigh hlow =>
    have hvalid := isValidChar_pairCode hhigh hlow
    have hbounds := isHigh_iff.mp hhigh
    have hbounds' := isLow_iff.mp hlow
    rw [List.append_assoc, toNat_ofNat_of_isValidChar hvalid]
    simp only [takeCode, takeSequence?_encodeUnit, if_pos hbounds, if_pos hbounds',
      UInt16.ofNat_toNat]
    exact ⟨_, rfl⟩

/-- A sequence that is read is that of a character, or that of a half. -/
theorem eq_of_takeSequence? {bytes behind : List UInt8} {code : Nat}
    (h : takeSequence? bytes = some (code, behind)) :
    ((code < 0xD800 ∨ 0xE000 ≤ code) ∧ code.isValidChar ∧
      bytes = String.utf8EncodeChar (Char.ofNat code) ++ behind) ∨
    (0xD800 ≤ code ∧ code < 0xE000 ∧ bytes = encodeUnit (UInt16.ofNat code) ++ behind) := by
  obtain ⟨rfl, hcode⟩ := takeSequence?_eq_some_iff.mp h
  by_cases hhalf : 0xD800 ≤ code ∧ code < 0xE000
  · right
    rw [encodeUnit_eq_sequence, toNat_ofNat_of_lt_unit (by omega)]
    exact ⟨hhalf.1, hhalf.2, rfl⟩
  · left
    have hvalid : code.isValidChar := by simp only [Nat.isValidChar]; omega
    rw [utf8EncodeChar_eq_sequence, toNat_ofNat_of_isValidChar hvalid]
    exact ⟨by omega, hvalid, rfl⟩

/-- What is read off the front is a token. -/
theorem token_of_takeCode {bytes : List UInt8} {found : Reading} (h : takeCode bytes = .ok found) :
    ∃ token c, Token token c ∧ c.toNat = found.code ∧ bytes = token ++ found.behind := by
  unfold takeCode at h
  split at h
  · cases h
  · next code behind hfirst =>
    have heq := eq_of_takeSequence? hfirst
    split at h
    · next hhigh =>
      split at h
      · next low behind' hsecond =>
        have heq' := eq_of_takeSequence? hsecond
        split at h
        · next hlow =>
          obtain rfl := Except.ok.inj h
          have hhigh' : isHigh (UInt16.ofNat code) = true := by
            rw [isHigh_iff, toNat_ofNat_of_lt_unit (by omega)]
            exact hhigh
          have hlow' : isLow (UInt16.ofNat low) = true := by
            rw [isLow_iff, toNat_ofNat_of_lt_unit (by omega)]
            exact hlow
          obtain ⟨-, -, rfl⟩ := heq.resolve_left (by omega)
          obtain ⟨-, -, rfl⟩ := heq'.resolve_left (by omega)
          exact ⟨_, _, .pair hhigh' hlow',
            toNat_ofNat_of_isValidChar (isValidChar_pairCode hhigh' hlow'),
            (List.append_assoc ..).symm⟩
        · cases h
      · cases h
    · next hhigh =>
      split at h
      · cases h
      · next hlow =>
        cases h
        obtain ⟨-, hvalid, rfl⟩ := heq.resolve_right (by omega)
        exact ⟨_, _, .plain _, toNat_ofNat_of_isValidChar hvalid, rfl⟩

/-- **Every code point that is read is a character's**, so turning it into one never fails. -/
theorem charOfCode?_of_takeCode {bytes : List UInt8} {found : Reading}
    (h : takeCode bytes = .ok found) :
    ∃ c, charOfCode? found.code = some c ∧ c.toNat = found.code := by
  obtain ⟨token, c, -, hc, -⟩ := token_of_takeCode h
  refine ⟨c, ?_, hc⟩
  rw [← hc, charOfCode?, if_pos (show c.toNat.isValidChar from c.valid), Char.ofNat_toNat]

/-- What blocks the reading: a half at the front that is named, or no half at all. -/
theorem half_of_takeCode {bytes : List UInt8} {half : Option UInt16}
    (h : takeCode bytes = .error half) :
    match half with
    | some u => isHalf u = true ∧ encodeUnit u <+: bytes
    | none => ∀ u, isHalf u = true → ¬ encodeUnit u <+: bytes := by
  unfold takeCode at h
  split at h
  · next hfirst =>
    cases h
    rintro u - ⟨behind, rfl⟩
    rw [takeSequence?_encodeUnit] at hfirst
    cases hfirst
  · next code behind hfirst =>
    have hhalf (hcode : 0xD800 ≤ code ∧ code < 0xE000) : isHalf (UInt16.ofNat code) = true ∧
        encodeUnit (UInt16.ofNat code) <+: bytes := by
      rw [isHalf_iff, toNat_ofNat_of_lt_unit (by omega)]
      obtain ⟨-, -, rfl⟩ := (eq_of_takeSequence? hfirst).resolve_left (by omega)
      exact ⟨hcode, behind, rfl⟩
    split at h
    · split at h
      · split at h
        · cases h
        · cases h
          exact hhalf (by omega)
      · cases h
        exact hhalf (by omega)
    · split at h
      · cases h
        exact hhalf (by omega)
      · cases h

/-! ## All tokens -/

theorem pairSequences_of_ok {bytes : List UInt8} {found : Reading} {c : Char}
    (h : takeCode bytes = .ok found) (hc : c.toNat = found.code) :
    pairSequences bytes = (pairSequences found.behind).map (c :: ·) := by
  cases bytes with
  | nil => cases h
  | cons b rest =>
    obtain ⟨c', hchar, hc'⟩ := charOfCode?_of_takeCode h
    obtain rfl : c' = c := Char.toNat_inj.mp (hc'.trans hc.symm)
    rw [pairSequences]
    split
    · next half h' => rw [h] at h'; cases h'
    · next found' h' =>
      rw [h] at h'
      cases h'
      simp only [hchar]

theorem pairSequences_of_error {bytes : List UInt8} {half : Option UInt16} (hne : bytes ≠ [])
    (h : takeCode bytes = .error half) : pairSequences bytes = .error ⟨half, bytes⟩ := by
  cases bytes with
  | nil => exact absurd rfl hne
  | cons b rest =>
    rw [pairSequences]
    split
    · next half' h' => rw [h] at h'; cases h'; rfl
    · next found' h' => rw [h] at h'; cases h'

theorem pairSequences_append {bytes : List UInt8} {cs : List Char} (h : Tokens bytes cs)
    (left : List UInt8) :
    pairSequences (bytes ++ left) = (pairSequences left).map (cs ++ ·) := by
  induction h with
  | nil =>
    rw [List.nil_append]
    cases pairSequences left <;> rfl
  | @cons token rest c cs first _ ih =>
    obtain ⟨here, hread⟩ := takeCode_append first (rest ++ left)
    rw [List.append_assoc, pairSequences_of_ok hread rfl, ih]
    cases pairSequences left <;> rfl

/-- Engine text is tokens, up to its end or to a blockage. -/
theorem exists_tokens (bytes : List UInt8) :
    ∃ read left cs, bytes = read ++ left ∧ Tokens read cs ∧
      (left = [] ∨ ∃ half, takeCode left = .error half) := by
  induction hlength : bytes.length using Nat.strongRecOn generalizing bytes with
  | ind n ih =>
    subst hlength
    cases hread : takeCode bytes with
    | error half => exact ⟨[], bytes, [], rfl, .nil, .inr ⟨half, hread⟩⟩
    | ok found =>
      obtain ⟨read, left, cs, hsplit, htokens, hleft⟩ :=
        ih _ (takeCode_length_lt hread) found.behind rfl
      obtain ⟨token, c, first, -, rfl⟩ := token_of_takeCode hread
      exact ⟨token ++ read, left, c :: cs, by
        rw [hsplit, List.append_assoc], .cons first htokens, hleft⟩

/-- Behind tokens at the front of tokens there are tokens. -/
theorem Tokens.of_append {read more : List UInt8} {cs ds : List Char} (h : Tokens read cs)
    (h' : Tokens (read ++ more) ds) : ∃ es, Tokens more es := by
  induction h generalizing ds with
  | nil => exact ⟨ds, h'⟩
  | @cons token rest c cs first _ ih =>
    generalize hbytes : (token ++ rest) ++ more = bytes at h'
    cases h' with
    | nil => simp [first.ne_nil] at hbytes
    | @cons token' rest' c' cs' first' others' =>
      obtain ⟨here, hread⟩ := takeCode_append first (rest ++ more)
      obtain ⟨here', hread'⟩ := takeCode_append first' rest'
      rw [← List.append_assoc, hbytes, hread'] at hread
      simp only [Except.ok.injEq, Reading.mk.injEq] at hread
      exact ih (hread.2.2 ▸ others')

theorem eq_nil_of_tokens {left more : List UInt8} {half : Option UInt16} {cs : List Char}
    (h : takeCode left = .error half) (hmore : more <+: left) (htokens : Tokens more cs) :
    more = [] := by
  cases htokens with
  | nil => rfl
  | @cons token rest c cs first _ =>
    obtain ⟨behind, rfl⟩ := hmore
    obtain ⟨here, hread⟩ := takeCode_append first (rest ++ behind)
    rw [List.append_assoc, hread] at h
    cases h

/-! ## The whole reading -/

/-- A row of tokens with `n` bytes stands at the front, and no longer one. -/
structure LongestRow (bytes : List UInt8) (n : Nat) : Prop where
  row : ∃ row cs, row <+: bytes ∧ row.length = n ∧ Tokens row cs
  longest : ∀ row cs, row <+: bytes → Tokens row cs → row.length ≤ n

theorem longestRow_of_blockage {read left : List UInt8} {cs : List Char} {half : Option UInt16}
    (hread : Tokens read cs) (hleft : takeCode left = .error half) :
    LongestRow (read ++ left) read.length where
  row := ⟨read, cs, List.prefix_append .., rfl, hread⟩
  longest row ds hrow htokens := by
    rcases Nat.le_total row.length read.length with hle | hle
    · exact hle
    · obtain ⟨more, rfl⟩ := List.prefix_of_prefix_length_le (List.prefix_append ..) hrow hle
      obtain ⟨es, hmore⟩ := hread.of_append htokens
      have hnil := eq_nil_of_tokens hleft ((List.prefix_append_right_inj read).mp hrow) hmore
      simp [hnil]

/-- The joining reading: the characters of the tokens, or the blockage behind the longest row. -/
theorem pairSequences_tokens (bytes : List UInt8) :
    (∃ cs, Tokens bytes cs ∧ pairSequences bytes = .ok cs) ∨
    ∃ read left cs half, bytes = read ++ left ∧ Tokens read cs ∧ left ≠ [] ∧
      takeCode left = .error half ∧ pairSequences bytes = .error ⟨half, left⟩ := by
  obtain ⟨read, left, cs, rfl, hread, hleft⟩ := exists_tokens bytes
  rcases Classical.em (left = []) with rfl | hne
  · refine .inl ⟨cs, by rwa [List.append_nil], ?_⟩
    rw [pairSequences_append hread, pairSequences]
    simp [Except.map]
  · obtain ⟨half, hhalf⟩ := hleft.resolve_left hne
    refine .inr ⟨read, left, cs, half, rfl, hread, hne, hhalf, ?_⟩
    rw [pairSequences_append hread, pairSequences_of_error hne hhalf]
    rfl

theorem pairSequences_of_tokens {bytes : List UInt8} {cs : List Char} (h : Tokens bytes cs) :
    pairSequences bytes = .ok cs := by
  have hread := pairSequences_append h []
  rw [List.append_nil, pairSequences] at hread
  simpa [Except.map] using hread

theorem fromEngineText_eq (bytes : List UInt8) :
    fromEngineText bytes = match pairSequences bytes with
      | .ok cs => .ok (String.ofList cs)
      | .error blockage => .error (blockage.error bytes.length) := by
  unfold fromEngineText
  cases hutf8 : decodeUtf8 bytes with
  | error offset => rfl
  | ok s =>
    obtain rfl := decodeUtf8_sound hutf8
    rw [pairSequences_of_tokens (tokens_utf8 s)]
    simp

theorem fromEngineText_eq_ok_iff {bytes : List UInt8} {s : String} :
    fromEngineText bytes = .ok s ↔ Tokens bytes s.toList := by
  rw [fromEngineText_eq]
  constructor
  · intro h
    rcases pairSequences_tokens bytes with
      ⟨cs, hcs, hread⟩ | ⟨read, left, cs, half, -, -, -, -, hread⟩
    · rw [hread] at h
      cases h
      rwa [String.toList_ofList]
    · rw [hread] at h
      cases h
  · intro h
    rw [pairSequences_of_tokens h]
    simp

/-- **Engine text is read by its grammar.**  The reading accepts exactly the rows of tokens, with
their characters; otherwise it blames the end of the longest row of tokens at the front, for a lone
half if one stands there and for malformed bytes if not.  Wherever it stands, what it takes for a
code point is a character's. -/
theorem fromEngineText_reads_tokens (bytes : List UInt8) :
    (∀ s, fromEngineText bytes = .ok s ↔ Tokens bytes s.toList) ∧
    ((∃ cs, Tokens bytes cs) ∨ ∃ n, LongestRow bytes n ∧
      ((∃ u, isHalf u = true ∧ encodeUnit u <+: bytes.drop n ∧
          fromEngineText bytes = .error (.loneSurrogate u n)) ∨
        (∀ u, isHalf u = true → ¬ encodeUnit u <+: bytes.drop n) ∧
          fromEngineText bytes = .error (.invalidUtf8 n))) ∧
    ∀ left found, left <:+ bytes → takeCode left = .ok found →
      ∃ c, charOfCode? found.code = some c := by
  refine ⟨fun s => fromEngineText_eq_ok_iff, ?_, fun left found _ hread => ?_⟩
  · rcases pairSequences_tokens bytes with ⟨cs, hcs, -⟩ |
      ⟨read, left, cs, half, rfl, hread, hne, hhalf, herror⟩
    · exact .inl ⟨cs, hcs⟩
    · refine .inr ⟨read.length, longestRow_of_blockage hread hhalf, ?_⟩
      have hblame := half_of_takeCode hhalf
      rw [fromEngineText_eq, herror, List.drop_left]
      cases half with
      | some u => exact .inl ⟨u, hblame.1, hblame.2, by simp [Blockage.error]⟩
      | none => exact .inr ⟨hblame, by simp [Blockage.error]⟩
  · obtain ⟨c, hc, -⟩ := charOfCode?_of_takeCode hread
    exact ⟨c, hc⟩

end ScriptHost.Text
