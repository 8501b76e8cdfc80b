import ScriptHost.Proofs.Text.Exchange

/-!
# Reading damaged text

`decodeUnits` never fails.  Where a sequence of bytes stands it reads that and goes on behind it,
and where none stands it replaces one byte and goes on at the next.  No sequence reaches over a byte
that continues none, so damage in front of such a byte does not spread beyond it.

* `Scan`: what is read of some bytes, and `scan_iff`: that is what `decodeUnits` reads;
* `takeSequence?_append_of_some`, `takeSequence?_append_of_none`:
  what more bytes behind them change;
* `decodeUnits_resynchronises`: **the reading of a whole is that of its parts**, cut at such a byte.
-/

namespace ScriptHost.Text

/-- The byte stands inside a sequence or at its end, but never at its front. -/
def Continues (b : UInt8) : Prop := 0x80 ≤ b ∧ b ≤ 0xBF

/-- The units that are read of some bytes, from the front on. -/
inductive Scan : List UInt8 → List UInt16 → Prop
  | nil : Scan [] []
  /-- The shortest sequence for a code point, a half or not, gives its units. -/
  | sequence {code : Nat} {behind : List UInt8} {us : List UInt16} (hcode : code < 0x110000)
    (rest : Scan behind us) : Scan (sequence code ++ behind) (unitsOfCode code ++ us)
  /-- A byte at which no such sequence starts gives a replacement. -/
  | stray {b : UInt8} {behind : List UInt8} {us : List UInt16}
    (hnone : ∀ code < 0x110000, ¬ sequence code <+: b :: behind) (rest : Scan behind us) :
    Scan (b :: behind) (replacement :: us)

/-! ## One sequence -/

theorem continues_of_mem {count code : Nat} {b : UInt8} (h : b ∈ continuations count code) :
    Continues b := by
  induction count with
  | zero => cases h
  | succ count ih =>
    rcases List.mem_cons.mp h with rfl | h
    · have hbyte : (UInt8.ofNat (0x80 + code / 0x40 ^ count % 0x40)).toNat =
          0x80 + code / 0x40 ^ count % 0x40 := toNat_ofNat_of_lt (by omega)
      simp only [Continues, UInt8.le_iff_toNat_le, hbyte, UInt8.reduceToNat]
      omega
    · exact ih h

theorem exists_continuations (code : Nat) :
    ∃ b count, sequence code = b :: continuations count code := by
  unfold sequence
  split
  · exact ⟨_, 0, rfl⟩
  split
  · exact ⟨_, 1, rfl⟩
  split
  · exact ⟨_, 2, rfl⟩
  · exact ⟨_, 3, rfl⟩

theorem length_unitsOfCode_le (code : Nat) : (unitsOfCode code).length ≤
    (sequence code).length := by
  unfold unitsOfCode
  split
  · obtain ⟨b, count, hsequence⟩ := exists_continuations code
    rw [hsequence]
    exact Nat.succ_le_succ (Nat.zero_le _)
  · rw [sequence, if_neg (by omega), if_neg (by omega), if_neg (by omega)]
    exact Nat.le_add_left 2 2

theorem takeSequence?_eq_none_iff {bytes : List UInt8} :
    takeSequence? bytes = none ↔ ∀ code < 0x110000, ¬ sequence code <+: bytes := by
  constructor
  · rintro hnone code hcode ⟨behind, hbehind⟩
    rw [takeSequence?_eq_some_iff.mpr ⟨hbehind.symm, hcode⟩] at hnone
    cases hnone
  · intro h
    refine Option.eq_none_iff_forall_ne_some.mpr fun ⟨code, behind⟩ hread => ?_
    obtain ⟨rfl, hcode⟩ := takeSequence?_eq_some_iff.mp hread
    exact h code hcode (List.prefix_append ..)

theorem takeSequence?_append_of_some {bytes behind : List UInt8} {code : Nat}
    (h : takeSequence? bytes = some (code, behind)) (more : List UInt8) :
    takeSequence? (bytes ++ more) = some (code, behind ++ more) := by
  obtain ⟨rfl, hcode⟩ := takeSequence?_eq_some_iff.mp h
  exact takeSequence?_eq_some_iff.mpr ⟨List.append_assoc .., hcode⟩

/-- Where none stands, none is completed by bytes that do not begin with a continuation. -/
theorem takeSequence?_append_of_none {b : UInt8} {rest more : List UInt8}
    (h : takeSequence? (b :: rest) = none) (hmore : ∀ c ∈ more.head?, ¬ Continues c) :
    takeSequence? (b :: rest ++ more) = none := by
  rw [takeSequence?_eq_none_iff] at h ⊢
  rintro code hcode ⟨left, hleft⟩
  rcases List.append_eq_append_iff.mp hleft with
    ⟨missing, hrest, -⟩ | ⟨missing, hsequence, hmissing⟩
  · exact h code hcode ⟨missing, hrest.symm⟩
  -- The sequence would have to end among the new bytes.
  cases missing with
  | nil => exact h code hcode (by simp [hsequence])
  | cons c missing =>
    obtain ⟨first, count, hcontinuations⟩ := exists_continuations code
    rw [hcontinuations, List.cons_append, List.cons.injEq] at hsequence
    have hc : c ∈ continuations count code := by simp [hsequence.2]
    exact hmore c (by simp [hmissing]) (continues_of_mem hc)

/-! ## The whole reading -/

theorem scan_decodeUnits (bytes : List UInt8) : Scan bytes (decodeUnits bytes) := by
  induction bytes using decodeUnits.induct with
  | case1 => simpa [decodeUnits] using Scan.nil
  | case2 b rest code behind hread ih =>
    rw [decodeUnits_of_takeSequence? hread]
    obtain ⟨hbytes, hcode⟩ := takeSequence?_eq_some_iff.mp hread
    rw [hbytes]
    exact .sequence hcode ih
  | case3 b rest hread ih =>
    rw [decodeUnits_of_none hread]
    exact .stray (takeSequence?_eq_none_iff.mp hread) ih

/-- Bytes have one scan. -/
theorem scan_iff {bytes : List UInt8} {us : List UInt16} : Scan bytes us ↔
    decodeUnits bytes = us := by
  constructor
  · intro h
    induction h with
    | nil => rw [decodeUnits]
    | sequence hcode _ ih =>
      rw [decodeUnits_of_takeSequence? (takeSequence?_eq_some_iff.mpr ⟨rfl, hcode⟩), ih]
    | stray hnone _ ih => rw [decodeUnits_of_none (takeSequence?_eq_none_iff.mpr hnone), ih]
  · rintro rfl
    exact scan_decodeUnits bytes

theorem Scan.length_le {bytes : List UInt8} {us : List UInt16} (h : Scan bytes us) :
    us.length ≤ bytes.length := by
  induction h with
  | nil => exact Nat.le_refl 0
  | @sequence code _ _ _ _ ih =>
    simp only [List.length_append]
    exact Nat.add_le_add (length_unitsOfCode_le code) ih
  | stray _ _ ih => exact Nat.succ_le_succ ih

/-- Whatever stands in front, reading starts anew at a byte that is no continuation. -/
theorem decodeUnits_append_of_head {more : List UInt8} (hmore : ∀ c ∈ more.head?, ¬ Continues c)
    (bytes : List UInt8) : decodeUnits (bytes ++ more) = decodeUnits bytes ++ decodeUnits more := by
  induction bytes using decodeUnits.induct with
  | case1 => simp [decodeUnits]
  | case2 b rest code behind hread ih =>
    rw [decodeUnits_of_takeSequence? hread,
      decodeUnits_of_takeSequence? (takeSequence?_append_of_some hread more), ih, List.append_assoc]
  | case3 b rest hread ih =>
    have hnone := takeSequence?_append_of_none hread hmore
    rw [List.cons_append] at hnone ⊢
    rw [decodeUnits_of_none hread, decodeUnits_of_none hnone, ih, List.cons_append]

/-- **Damage does not spread.**  The units of some bytes are those of the sequences that a scan
comes upon, in order, with one replacement for each byte at which no sequence starts; so there are
no more units than bytes.  And bytes behind which others follow are read as if nothing did, and
those others as if nothing were in front, unless they begin with a continuation: no sequence,
however broken, swallows what is behind it. -/
theorem decodeUnits_resynchronises (bytes : List UInt8) :
    (∀ us, decodeUnits bytes = us ↔ Scan bytes us) ∧
    (decodeUnits bytes).length ≤ bytes.length ∧
    ∀ more, (∀ c ∈ more.head?, ¬ Continues c) →
      decodeUnits (bytes ++ more) = decodeUnits bytes ++ decodeUnits more :=
  ⟨fun _ => scan_iff.symm, (scan_decodeUnits bytes).length_le, fun _ hmore =>
    decodeUnits_append_of_head hmore bytes⟩

/-- The first two bytes of three, in front of a letter: each of them is replaced,
and the letter is read. -/
theorem decodeUnits_resynchronises_cut :
    (∀ c ∈ ([0x62] : List UInt8).head?, ¬ Continues c) ∧
    decodeUnits ([0xE2, 0x82] ++ [0x62]) = [replacement, replacement] ++ [0x62] := by
  have hletter : ∀ c ∈ ([0x62] : List UInt8).head?, ¬ Continues c := by
    rintro c hc ⟨hlow, -⟩
    cases hc
    exact absurd hlow (by decide)
  refine ⟨hletter, ((decodeUnits_resynchronises [0xE2, 0x82]).2.2 [0x62] hletter).trans ?_⟩
  cbv

end ScriptHost.Text
