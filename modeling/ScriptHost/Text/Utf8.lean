/-!
# Well-formed UTF-8

The byte sequences of characters, by the table of the Unicode standard: which second bytes are
allowed depends on the first, so neither an overlong form, nor a half, nor a code point above
`0x10FFFF` is ever accepted.

* writing: `utf8`, the bytes of a string;
* one step of reading: `takeChar?` (`takeChar?_length_lt`: it consumes something);
* reading: `readUtf8`, and `decodeUtf8`, which reports the length of the longest
  prefix that is well formed.
-/

namespace ScriptHost.Text

/-- The bytes of a character string. -/
def utf8 (s : String) : List UInt8 := s.toList.flatMap String.utf8EncodeChar

/-- The byte lies between the bounds, both included. -/
def inRange (low high b : UInt8) : Bool := low ≤ b && b ≤ high

/-- The second bytes allowed behind the first byte of a sequence of two to four bytes, with the
payload of the first byte and the number of further bytes. -/
structure Head where
  /-- The payload bits of the first byte. -/
  bits : Nat
  /-- The least second byte. -/
  low : UInt8
  /-- The greatest second byte. -/
  high : UInt8
  /-- How many bytes follow the second. -/
  more : Nat

/-- The table row of a first byte, `none` for a byte that starts no sequence of several bytes. -/
def head? (b : UInt8) : Option Head :=
  let n := b.toNat
  if b < 0xC2 then none
  else if b < 0xE0 then some ⟨n - 0xC0, 0x80, 0xBF, 0⟩
  else if b = 0xE0 then some ⟨n - 0xE0, 0xA0, 0xBF, 1⟩
  else if b = 0xED then some ⟨n - 0xE0, 0x80, 0x9F, 1⟩
  else if b < 0xF0 then some ⟨n - 0xE0, 0x80, 0xBF, 1⟩
  else if b = 0xF0 then some ⟨n - 0xF0, 0x90, 0xBF, 2⟩
  else if b < 0xF4 then some ⟨n - 0xF0, 0x80, 0xBF, 2⟩
  else if b = 0xF4 then some ⟨n - 0xF0, 0x80, 0x8F, 2⟩
  else none

/-- Reads `count` bytes `0x80`..`0xBF` behind the payload `code`. -/
def takeTail? : (count code : Nat) → List UInt8 → Option (Nat × List UInt8)
  | 0, code, rest => some (code, rest)
  | _ + 1, _, [] => none
  | count + 1, code, b :: rest =>
    if inRange 0x80 0xBF b then takeTail? count (code * 0x40 + (b.toNat - 0x80)) rest else none

/-- The character whose bytes stand at the front, and the bytes behind them. -/
def takeChar? : List UInt8 → Option (Char × List UInt8)
  | [] => none
  | b :: rest =>
    if b < 0x80 then some (Char.ofNat b.toNat, rest)
    else
      match head? b, rest with
      | some head, c :: rest =>
        if inRange head.low head.high c then
          (takeTail? head.more (head.bits * 0x40 + (c.toNat - 0x80)) rest).map
            fun (code, behind) => (Char.ofNat code, behind)
        else none
      | _, _ => none

theorem takeTail?_length_le {count code : Nat} {bytes : List UInt8} {r : Nat × List UInt8}
    (h : takeTail? count code bytes = some r) : r.2.length ≤ bytes.length := by
  induction bytes generalizing count code with
  | nil => cases count <;> simp_all [takeTail?]; simp [← h]
  | cons b rest ih =>
    cases count with
    | zero => simp only [takeTail?, Option.some.injEq] at h; simp [← h]
    | succ n =>
      simp only [takeTail?] at h
      split at h
      · exact Nat.le_succ_of_le (ih h)
      · simp at h

/-- A character has at least one byte. -/
theorem takeChar?_length_lt {bytes behind : List UInt8} {c : Char}
    (h : takeChar? bytes = some (c, behind)) : behind.length < bytes.length := by
  unfold takeChar? at h
  split at h
  · simp at h
  · split at h
    · simp only [Option.some.injEq, Prod.mk.injEq] at h
      simp [← h.2]
    · split at h
      · split at h
        · obtain ⟨r, hr, he⟩ := Option.map_eq_some_iff.1 h
          have hle := takeTail?_length_le hr
          simp only [Prod.mk.injEq] at he
          simp only [← he.2, List.length_cons]
          omega
        · simp at h
      · simp at h

/-- The characters of well-formed bytes, or what is left of the bytes where no character starts. -/
def readUtf8 : List UInt8 → Except (List UInt8) (List Char)
  | [] => .ok []
  | b :: rest =>
    match _h : takeChar? (b :: rest) with
    | some (c, behind) => (readUtf8 behind).map (c :: ·)
    | none => .error (b :: rest)
termination_by bytes => bytes.length
decreasing_by exact takeChar?_length_lt ‹_›

/-- The string that the bytes encode, or the length of their longest well-formed prefix. -/
def decodeUtf8 (bytes : List UInt8) : Except Nat String :=
  match readUtf8 bytes with
  | .ok cs => .ok (String.ofList cs)
  | .error left => .error (bytes.length - left.length)

end ScriptHost.Text
