import ScriptHost.Text.EngineText
import ScriptHost.Text.Utf8
import ScriptHost.Text.Utf16

/-!
# Text at the boundary

Host text may come in one of several encodings and becomes a character string, `HostText.decode`.
Engine text coming back has its pairs split: `fromEngineText` joins them again and refuses a half
without a partner, so the host never sees one; `fromEngineTextLossy` replaces whatever is malformed.

`fromEngineText` first tries plain UTF-8, which never holds a half; `pairSequences` is the reading
that joins pairs, one code point (`takeCode`) after the other.
-/

namespace ScriptHost.Text

/-- Malformed text met at the boundary. -/
inductive EncodingError
  /-- Bytes that are not UTF-8, from this offset on. -/
  | invalidUtf8 (offset : Nat)
  /-- Engine text with an unpaired half at this byte offset. -/
  | loneSurrogate (unit : UInt16) (offset : Nat)
  /-- Host units with an unpaired half at this index. -/
  | invalidUtf16 (unit : UInt16) (index : Nat)
  deriving DecidableEq, Repr

/-- A unit as four upper-case hexadecimal digits. -/
def hexUnit (u : UInt16) : String :=
  let digits := (Nat.toDigits 16 u.toNat).map Char.toUpper
  String.ofList (List.replicate (4 - digits.length) '0' ++ digits)

/-- The text of the error. -/
def EncodingError.message : EncodingError → String
  | .invalidUtf8 offset => s!"invalid UTF-8 sequence at byte {offset}"
  | .loneSurrogate unit offset => "lone surrogate U+" ++ hexUnit unit ++ s!" at byte {offset}"
  | .invalidUtf16 unit index =>
    "unpaired UTF-16 surrogate U+" ++ hexUnit unit ++ s!" at index {index}"

/-- Host text in the encoding that its holder has. -/
inductive HostText
  | string (s : String)
  | utf16 (units : List UInt16)
  | latin1 (bytes : List UInt8)
  /-- Bytes that claim to be UTF-8. -/
  | claimedUtf8 (bytes : List UInt8)
  deriving DecidableEq

/-- The units of byte pairs, low byte first; an odd byte at the end is dropped. -/
def unitsOfBytes : List UInt8 → List UInt16
  | low :: high :: rest => UInt16.ofNat (low.toNat + 0x100 * high.toNat) :: unitsOfBytes rest
  | _ => []

/-- Host text given as little-endian byte pairs. -/
def HostText.ofUtf16Bytes (bytes : List UInt8) : HostText := .utf16 (unitsOfBytes bytes)

/-- The character string of host text. -/
def HostText.decode : HostText → Except EncodingError String
  | .string s => .ok s
  | .utf16 us => (pairUnits us).mapError fun u => .invalidUtf16 u.unit u.index
  | .latin1 bytes => .ok (String.ofList (bytes.map fun b => Char.ofNat b.toNat))
  | .claimedUtf8 bytes => (decodeUtf8 bytes).mapError .invalidUtf8

/-- Why engine text could not be read further: what is left of it begins with a half that has no
partner, or with no sequence at all. -/
structure Blockage where
  half : Option UInt16
  left : List UInt8
  deriving DecidableEq, Repr

/-- The error about a blockage in text of `length` bytes. -/
def Blockage.error (length : Nat) (b : Blockage) : EncodingError :=
  match b.half with
  | some unit => .loneSurrogate unit (length - b.left.length)
  | none => .invalidUtf8 (length - b.left.length)

/-- A code point read off the front of some bytes. -/
structure Reading where
  code : Nat
  /-- What is left from the place at which the code point is turned into a character; for a pair
  that is as many bytes further on as its second half has. -/
  here : List UInt8
  /-- What is left behind it. -/
  behind : List UInt8

/-- The code point at the front, the halves of a pair joined.  There may be none, or only a half
that has no partner. -/
def takeCode (bytes : List UInt8) : Except (Option UInt16) Reading :=
  match takeSequence? bytes with
  | none => .error none
  | some (code, behind) =>
    if 0xD800 ≤ code ∧ code < 0xDC00 then
      match takeSequence? behind with
      | some (low, behind') =>
        if 0xDC00 ≤ low ∧ low < 0xE000 then
          .ok ⟨pairCode (UInt16.ofNat code) (UInt16.ofNat low),
            bytes.drop (behind.length - behind'.length), behind'⟩
        else .error (some (UInt16.ofNat code))
      | none => .error (some (UInt16.ofNat code))
    else if 0xDC00 ≤ code ∧ code < 0xE000 then .error (some (UInt16.ofNat code))
    else .ok ⟨code, bytes, behind⟩

/-- The character with a code point, if there is one. -/
def charOfCode? (code : Nat) : Option Char :=
  if code.isValidChar then some (Char.ofNat code) else none

theorem takeCode_length_lt {bytes : List UInt8} {found : Reading} (h : takeCode bytes = .ok found) :
    found.behind.length < bytes.length := by
  unfold takeCode at h
  split at h
  · simp at h
  · next code behind hfirst =>
    have hlt := takeSequence?_length_lt hfirst
    split at h
    · split at h
      · next low behind' hsecond =>
        have hlt' := takeSequence?_length_lt hsecond
        split at h
        · simp only [Except.ok.injEq] at h
          simp only [← h]
          omega
        · simp at h
      · simp at h
    · split at h
      · simp at h
      · simp only [Except.ok.injEq] at h
        simpa only [← h] using hlt

/-- Reads engine text code point by code point and joins pairs. -/
def pairSequences : List UInt8 → Except Blockage (List Char)
  | [] => .ok []
  | b :: rest =>
    match _h : takeCode (b :: rest) with
    | .error half => .error ⟨half, b :: rest⟩
    | .ok found =>
      match charOfCode? found.code with
      | none => .error ⟨none, found.here⟩
      | some c => (pairSequences found.behind).map (c :: ·)
termination_by bytes => bytes.length
decreasing_by exact takeCode_length_lt ‹_›

/-- The character string of engine text. -/
def fromEngineText (bytes : List UInt8) : Except EncodingError String :=
  match decodeUtf8 bytes with
  | .ok s => .ok s
  | .error _ =>
    match pairSequences bytes with
    | .ok cs => .ok (String.ofList cs)
    | .error blockage => .error (blockage.error bytes.length)

/-- The character string of engine text, all that is malformed replaced. -/
def fromEngineTextLossy (bytes : List UInt8) : String := pairUnitsLossy (decodeUnits bytes)

end ScriptHost.Text
