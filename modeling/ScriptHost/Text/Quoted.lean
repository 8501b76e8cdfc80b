import ScriptHost.Text.Hidden

/-!
# Quoted text for diagnostics

A string between double quotes, with the quote, the backslash and the common controls escaped by a
letter and every other character that is not visible by itself escaped by its code point.
-/

namespace ScriptHost.Text

/-- The character is escaped by its code point. -/
def needsCodePoint (c : Char) : Bool :=
  c.toNat < 0x20 || c.toNat = 0x7F || (0x80 ≤ c.toNat && hiddenCodes.contains c.toNat)

/-- One character between the quotes. -/
def quoteChar (c : Char) : String :=
  if c = '"' then "\\\""
  else if c = '\\' then "\\\\"
  else if c = '\n' then "\\n"
  else if c = '\r' then "\\r"
  else if c = '\t' then "\\t"
  else if c.toNat = 0 then "\\0"
  else if needsCodePoint c then
    "\\u\x7b" ++ String.ofList (Nat.toDigits 16 c.toNat) ++ "\x7d"
  else String.singleton c

/-- The string between quotes. -/
def quoted (s : String) : String := "\"" ++ String.join (s.toList.map quoteChar) ++ "\""

end ScriptHost.Text
