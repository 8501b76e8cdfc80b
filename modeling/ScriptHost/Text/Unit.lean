/-!
# Sixteen-bit text units

Script text is a list of 16-bit units.  A character of the basic plane is one unit; any other
character is a *pair*, a high half followed by a low half.  Nothing forces the halves of a list to
be paired, so a unit list need not be the text of any character string.

* classes: `isHigh`, `isLow`, `isHalf`;
* a pair and its code point: `pairCode`, `unitsOfCode`;
* the units of a string: `units`.
-/

namespace ScriptHost.Text

/-- The unit is the first half of a pair. -/
def isHigh (u : UInt16) : Bool := 0xD800 ≤ u && u < 0xDC00

/-- The unit is the second half of a pair. -/
def isLow (u : UInt16) : Bool := 0xDC00 ≤ u && u < 0xE000

/-- The unit is either half of a pair, and so no character by itself. -/
def isHalf (u : UInt16) : Bool := isHigh u || isLow u

/-- The code point that a high half and a low half stand for together. -/
def pairCode (high low : UInt16) : Nat :=
  0x10000 + (high.toNat - 0xD800) * 0x400 + (low.toNat - 0xDC00)

/-- The units of a code point below `0x110000`: one in the basic plane, a pair above it. -/
def unitsOfCode (code : Nat) : List UInt16 :=
  if code < 0x10000 then [UInt16.ofNat code]
  else [UInt16.ofNat (0xD800 + (code - 0x10000) / 0x400),
    UInt16.ofNat (0xDC00 + (code - 0x10000) % 0x400)]

/-- The unit that stands for text that could not be read. -/
def replacement : UInt16 := 0xFFFD

/-- The units of a character string, character by character. -/
def units (s : String) : List UInt16 := s.toList.flatMap fun c => unitsOfCode c.toNat

end ScriptHost.Text
