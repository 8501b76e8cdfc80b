/-!
# Sets of code points

A set is written as ranges of hexadecimal numbers with blanks between them, so that tables of a
standard stay readable.

* `CodeSet.ofLines`: the set that lines of text describe;
* `CodeSet.contains`.
-/

namespace ScriptHost.Text

/-- A set of code points: ranges, both ends included. -/
structure CodeSet where
  ranges : Array (Nat × Nat)

namespace CodeSet

/-- The number that hexadecimal digits in lower case spell. -/
def hexValue (cs : List Char) : Nat :=
  cs.foldl (fun n c => n * 16 + if c.isDigit then c.toNat - 0x30 else c.toNat - 0x57) 0

/-- The range that a word describes. -/
def rangeOfWord (word : List Char) : Nat × Nat :=
  let low := word.takeWhile (· != '-')
  let high := word.drop (low.length + 1)
  (hexValue low, hexValue (if high.isEmpty then low else high))

/-- The set that lines of text describe. -/
def ofLines (lines : List String) : CodeSet :=
  ⟨(lines.flatMap fun line => (line.toList.splitOn ' ').map rangeOfWord).toArray⟩

/-- The code point belongs to the set. -/
def contains (set : CodeSet) (code : Nat) : Bool :=
  set.ranges.any fun (low, high) => low ≤ code && code ≤ high

end CodeSet

end ScriptHost.Text
