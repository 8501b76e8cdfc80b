import ScriptHost.Value.Basic

/-!
# Equality of host values

Numbers compare as numbers, so not-a-number differs from itself and the two zeros are equal.  Maps
compare as multisets of entries: the order does not matter, and a repeated entry has to be repeated
as often on the other side.  Host functions and sentinels compare by identity.
-/

namespace ScriptHost

/-- The double is a zero of either sign. -/
def isZero (x : Float) : Bool := x.toBits.toNat % 0x8000000000000000 = 0

/-- The double is not a number: its exponent is all ones and its fraction is not empty. -/
def isNotNumber (x : Float) : Bool := 0x7FF0000000000000 < x.toBits.toNat % 0x8000000000000000

/-- Numeric equality: neither side is not-a-number, and the bits agree or both are zeros. -/
def numbersEqual (x y : Float) : Bool :=
  !isNotNumber x && !isNotNumber y && (x.toBits == y.toBits || (isZero x && isZero y))

/-- The list without its first element that satisfies `p`, `none` if there is none. -/
def removeFirst? {α : Type} (p : α → Bool) : List α → Option (List α)
  | [] => none
  | a :: rest => if p a then some rest else (removeFirst? p rest).map (a :: ·)

namespace HostValue

mutual

/-- Equality of values. -/
def equal : HostValue → HostValue → Bool
  | null, null => true
  | boolean a, boolean b => a == b
  | number a, number b => numbersEqual a b
  | string a, string b => a == b
  | array a, array b => listsEqual a b
  | map a, map b => mapsEqual a b
  | complexObject a, complexObject b => a == b
  | callable a, callable b => a == b
  | foreign a, foreign b => a == b
  | _, _ => false

/-- Equality of arrays, element by element. -/
def listsEqual : List HostValue → List HostValue → Bool
  | [], [] => true
  | a :: as, b :: bs => equal a b && listsEqual as bs
  | _, _ => false

/-- Equality of maps: each entry on the left strikes out an equal one on the right, and nothing is
left over. -/
def mapsEqual : List (HostValue × HostValue) → List (HostValue × HostValue) → Bool
  | [], bs => bs.isEmpty
  | (key, item) :: as, bs =>
    match removeFirst? (fun entry => equal key entry.1 && equal item entry.2) bs with
    | some rest => mapsEqual as rest
    | none => false

end

instance : BEq HostValue := ⟨equal⟩

end HostValue

end ScriptHost
