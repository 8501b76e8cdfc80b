import ScriptHost.Text.Unit

/-!
# Engine text

Text leaves the script machine as bytes in which every 16-bit unit is encoded on its own: one byte
below `0x80`, two below `0x800`, three otherwise.  A pair therefore shows as two sequences of three
bytes, and a half without its partner survives as one.  Text going in may also use the ordinary
sequence of four bytes for a supplementary character.

* writing: `encodeUnits`, one `encodeUnit` after the other;
* one step of reading: `takeSequence?`, the code point of the shortest-form sequence at the front
  (halves included) and the bytes behind it (`takeSequence?_length_lt`: fewer than before);
* reading: `decodeUnits`, which never fails: a byte where no sequence starts is replaced;
* reading on words: `decodeWords`, as the script machine does it.  It takes as many bytes as the
  first one announces, whatever they are, and shifts their payloads into a word of 32 bits.
-/

namespace ScriptHost.Text

/-- The bytes of one unit. -/
def encodeUnit (u : UInt16) : List UInt8 :=
  let n := u.toNat
  if n < 0x80 then [UInt8.ofNat n]
  else if n < 0x800 then [UInt8.ofNat (0xC0 + n / 0x40), UInt8.ofNat (0x80 + n % 0x40)]
  else [UInt8.ofNat (0xE0 + n / 0x1000), UInt8.ofNat (0x80 + n / 0x40 % 0x40),
    UInt8.ofNat (0x80 + n % 0x40)]

/-- The bytes of a unit list, unit by unit. -/
def encodeUnits (us : List UInt16) : List UInt8 := us.flatMap encodeUnit

/-- What the first byte of a sequence announces. -/
structure Lead where
  /-- The payload bits of the first byte itself. -/
  bits : Nat
  /-- How many continuation bytes follow. -/
  following : Nat
  /-- The least code point that needs a sequence of this length. -/
  least : Nat

/-- What `b` announces as the first byte of a sequence; a continuation byte and a byte from `0xF8`
on start none. -/
def lead? (b : UInt8) : Option Lead :=
  let n := b.toNat
  if n < 0x80 then some ⟨n, 0, 0⟩
  else if n < 0xC0 then none
  else if n < 0xE0 then some ⟨n - 0xC0, 1, 0x80⟩
  else if n < 0xF0 then some ⟨n - 0xE0, 2, 0x800⟩
  else if n < 0xF8 then some ⟨n - 0xF0, 3, 0x10000⟩
  else none

/-- The six payload bits of a continuation byte `0x80`..`0xBF`. -/
def continuation? (b : UInt8) : Option Nat :=
  if 0x80 ≤ b.toNat ∧ b.toNat < 0xC0 then some (b.toNat - 0x80) else none

/-- Reads `count` continuation bytes behind the payload `code`. -/
def takeContinuations? : (count code : Nat) → List UInt8 → Option (Nat × List UInt8)
  | 0, code, rest => some (code, rest)
  | _ + 1, _, [] => none
  | count + 1, code, b :: rest =>
    match continuation? b with
    | some bits => takeContinuations? count (code * 0x40 + bits) rest
    | none => none

/-- The sequence at the front, in its shortest form and at most `0x10FFFF`: its code point and the
bytes behind it.  The three-byte form of a half counts as a sequence. -/
def takeSequence? : List UInt8 → Option (Nat × List UInt8)
  | [] => none
  | b :: rest =>
    match lead? b with
    | none => none
    | some lead =>
      match takeContinuations? lead.following lead.bits rest with
      | none => none
      | some (code, behind) =>
        if lead.least ≤ code ∧ code < 0x110000 then some (code, behind) else none

theorem takeContinuations?_length_le {count code : Nat} {bytes : List UInt8} {r : Nat × List UInt8}
    (h : takeContinuations? count code bytes = some r) : r.2.length ≤ bytes.length := by
  induction bytes generalizing count code with
  | nil => cases count <;> simp_all [takeContinuations?]; simp [← h]
  | cons b rest ih =>
    cases count with
    | zero => simp only [takeContinuations?, Option.some.injEq] at h; simp [← h]
    | succ n =>
      simp only [takeContinuations?] at h
      split at h
      · exact Nat.le_succ_of_le (ih h)
      · simp at h

/-- A sequence is not empty: fewer bytes are left behind it. -/
theorem takeSequence?_length_lt {bytes behind : List UInt8} {code : Nat}
    (h : takeSequence? bytes = some (code, behind)) : behind.length < bytes.length := by
  unfold takeSequence? at h
  split at h
  · simp at h
  · split at h
    · simp at h
    · split at h
      · simp at h
      · next hc =>
        have hle := takeContinuations?_length_le hc
        split at h
        · simp only [Option.some.injEq, Prod.mk.injEq] at h
          simp_all only [List.length_cons]
          omega
        · simp at h

/-- The units of engine text.  A byte at which no sequence starts is replaced, and reading goes on
at the next byte. -/
def decodeUnits : List UInt8 → List UInt16
  | [] => []
  | b :: rest =>
    match _h : takeSequence? (b :: rest) with
    | some (code, behind) => unitsOfCode code ++ decodeUnits behind
    | none => replacement :: decodeUnits rest
termination_by bytes => bytes.length
decreasing_by
  · exact takeSequence?_length_lt ‹_›
  · simp

/-! ## Reading on words -/

/-- How many bytes the sequence has that begins with `b`; `0` if none does. -/
def announced (b : UInt8) : Nat :=
  if b ≤ 0x7F then 1
  else if b ≤ 0xBF then 0
  else if b ≤ 0xDF then 2
  else if b ≤ 0xEF then 3
  else if b ≤ 0xF7 then 4
  else 0

/-- Shifts the payloads of continuation bytes into a word. -/
def shiftIn? (code : UInt32) : List UInt8 → Option UInt32
  | [] => some code
  | b :: rest =>
    if b &&& 0xC0 = 0x80 then shiftIn? (code <<< 6 ||| (b &&& 0x3F).toUInt32) rest else none

/-- The payload of the first of `length` bytes, two or more. -/
def payload (length : Nat) (b : UInt8) : UInt32 := b.toUInt32 &&& 0x7F >>> UInt32.ofNat length

/-- The least code point that needs `length` bytes, two or more. -/
def leastWord : (length : Nat) → UInt32
  | 2 => 0x80
  | 3 => 0x800
  | _ => 0x10000

/-- The code point of the sequence that begins with `b`, behind which there is `rest`. -/
def wordOf? (b : UInt8) (rest : List UInt8) : Option UInt32 :=
  let length := announced b
  if length = 0 ∨ rest.length + 1 < length then none
  else if length = 1 then some b.toUInt32
  else
    match shiftIn? (payload length b) (rest.take (length - 1)) with
    | none => none
    | some code => if leastWord length ≤ code ∧ code ≤ 0x10FFFF then some code else none

/-- The units of a code point. -/
def wordUnits (code : UInt32) : List UInt16 :=
  if 0x10000 ≤ code then
    let above := code - 0x10000
    [(0xD800 : UInt16) ||| (above >>> 10).toUInt16,
     (0xDC00 : UInt16) ||| (above &&& 0x3FF).toUInt16]
  else [code.toUInt16]

/-- The units of engine text, read on words. -/
def decodeWords : List UInt8 → List UInt16
  | [] => []
  | b :: rest =>
    match wordOf? b rest with
    | some code => wordUnits code ++ decodeWords (rest.drop (announced b - 1))
    | none => replacement :: decodeWords rest
termination_by bytes => bytes.length
decreasing_by
  · simp only [List.length_drop, List.length_cons]
    omega
  · simp

end ScriptHost.Text
