import ScriptHost.Text.Unit

/-!
# Pairing 16-bit units

* `pairUnits` joins the pairs of a unit list, or reports the first half without a partner and where
  it stands;
* `pairUnitsLossy` puts the replacement character for every such half.
-/

namespace ScriptHost.Text

/-- A half without its partner, and its index in the unit list. -/
structure Unpaired where
  unit : UInt16
  index : Nat
  deriving DecidableEq, Repr

/-- The characters of a unit list whose first unit has the index `index`, or its first unpaired
half. -/
def pairUnitsFrom (index : Nat) : List UInt16 → Except Unpaired (List Char)
  | [] => .ok []
  | [u] => if isHalf u then .error ⟨u, index⟩ else .ok [Char.ofNat u.toNat]
  | u :: v :: rest =>
    if isHigh u then
      if isLow v then
        (pairUnitsFrom (index + 2) rest).map (Char.ofNat (pairCode u v) :: ·)
      else .error ⟨u, index⟩
    else if isLow u then .error ⟨u, index⟩
    else (pairUnitsFrom (index + 1) (v :: rest)).map (Char.ofNat u.toNat :: ·)

/-- The string of a unit list, or its first unpaired half. -/
def pairUnits (us : List UInt16) : Except Unpaired String :=
  (pairUnitsFrom 0 us).map String.ofList

/-- The characters of a unit list, each unpaired half replaced. -/
def pairUnitsLossyChars : List UInt16 → List Char
  | [] => []
  | [u] => [if isHalf u then '\uFFFD' else Char.ofNat u.toNat]
  | u :: v :: rest =>
    if isHigh u then
      if isLow v then Char.ofNat (pairCode u v) :: pairUnitsLossyChars rest
      else '\uFFFD' :: pairUnitsLossyChars (v :: rest)
    else
      (if isLow u then '\uFFFD' else Char.ofNat u.toNat) :: pairUnitsLossyChars (v :: rest)

/-- The string of a unit list, each unpaired half replaced. -/
def pairUnitsLossy (us : List UInt16) : String := String.ofList (pairUnitsLossyChars us)

end ScriptHost.Text
