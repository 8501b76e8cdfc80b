import ScriptHost.Script.Library.Functions

/-!
# Functions of arrays

All of them work on any object with a length.  They go through the indices in order and look at each
one only when they get there, so what a callback changes ahead of them is seen.
-/

namespace ScriptHost.Script.Library

open Run

/-- A new array of a length, without items. -/
def arrayOfLength (proto : Ref) (length : Nat) : Run Ref :=
  allocate (.empty (some proto) (.array length true))

/-- The constructor that an array names for the arrays made from it, unless it is the usual one. -/
def speciesOf (ref : Ref) : Run (Option Ref) := do
  if !(← isArray (.object ref)) then pure none
  else
    let c ← getNamed ref "constructor"
    let c ← match c with
      | .object c =>
        match ← get c WellKnown.species.key with
        | .null => pure .undefined
        | v => pure v
      | v => pure v
    match c with
    | .undefined => pure none
    | .object c =>
      if c = Intrinsic.arrayConstructor.ref then pure none
      else if ← read fun s => s.heap.isConstructor c then pure (some c)
      else throwTypeError "Symbol.species must be a constructor"
    | _ => throwTypeError "Symbol.species must be a constructor"

/-- A new list of the same make as an array. -/
def sameMake (ref : Ref) (length : Nat) : Run Ref := do
  match ← speciesOf ref with
  | none =>
    if indexLimit < length then throwRangeError "array exceeded max size"
    arrayOfLength Intrinsic.arrayPrototype.ref length
  | some c =>
    match ← Run.construct c [lengthValue length] c with
    | .object new => pure new
    | _ => throwTypeError "not a constructor"

/-- Sets the length of an object. -/
def setLength (ref : Ref) (n : Nat) : Run Unit := set ref lengthKey (lengthValue n)

/-- An object with its length. -/
structure Listed where
  ref : Ref
  length : Nat

/-- The receiver as a list. -/
def listed (this : ScriptValue) : Run Listed := do
  let ref ← toObject this
  pure ⟨ref, ← itemCount ref⟩

/-- Goes through the items that are there, changing a value. -/
def Listed.fold {γ : Type} (l : Listed) (start : γ) (step : Nat → ScriptValue → γ → Run γ) :
    Run γ := do
  let r ← scan (α := Empty) (fun n c => do
    if ← has l.ref (.ofNat n) then
      let v ← get l.ref (.ofNat n)
      pure (.ok (← step n v c))
    else pure (.ok c)) l.length 0 start
  match r with
  | .ok c => pure c

/-- The first position from `first` on, of `count` ones, at which a test answers. -/
def search {α : Type} (count first : Nat) (test : Nat → Run (Option α)) : Run (Option α) := do
  match ← scan (fun n (_ : Unit) => do
    match ← test n with
    | some a => pure (.error a)
    | none => pure (.ok ())) count first () with
  | .error a => pure (some a)
  | .ok _ => pure none

/-- Calls a callback with an item, its position and the list. -/
def callOn (f : Ref) (thisArg : ScriptValue) (l : Listed) (n : Nat) (v : ScriptValue) :
    Run ScriptValue :=
  Run.call f thisArg [v, lengthValue n, .object l.ref]

/-- The items joined by a separator; missing ones count as empty. -/
def joinItems (l : Listed) (separator : Units) : Run Units := do
  let r ← scan (α := Empty) (fun n (done : List Units) => do
    let v ← get l.ref (.ofNat n)
    let text ← if isMissing v then pure [] else Run.toText v
    pure (.ok (text :: done))) l.length 0 []
  match r with
  | .ok done => pure (separator.intercalate done.reverse)

/-- The items of a value for `concat`: those of an array, or the value itself. -/
def isSpreadable (v : ScriptValue) : Run Bool := do
  match v with
  | .object ref =>
    match ← get ref WellKnown.isConcatSpreadable.key with
    | .undefined => isArray v
    | w => pure (truth w)
  | _ => pure false

/-- The greatest length that an object may count to. -/
def safeLimit : Nat := 9007199254740991

/-- Fails for a length beyond the limit. -/
def requireSafeLength (length : Nat) (message : String) : Run Unit := do
  if safeLimit < length then throwTypeError message

/-- Copies the items of `source` behind the first `start` ones of `target`, holes left out. -/
def appendItems (target : Ref) (start : Nat) (source : ScriptValue) : Run Nat := do
  if ← isSpreadable source then
    let l ← listed source
    requireSafeLength (start + l.length)
      "length + number of arguments exceeds the max safe integer limit"
    l.fold () fun n v _ => create target (.ofNat (start + n)) v
    pure (start + l.length)
  else
    create target (.ofNat start) source
    pure (start + 1)

/-- The items that are there, in order. -/
def presentItems (l : Listed) : Run (List ScriptValue) := do
  pure (← l.fold [] fun _ v done => pure (v :: done)).reverse

/-- The first value has to stand before the second: missing values come last, and without a
comparison function the texts decide. -/
def isBefore (compare : Option Ref) (v w : ScriptValue) : Run Bool := do
  match v, w with
  | .undefined, _ => pure false
  | _, .undefined => pure true
  | v, w =>
    match compare with
    | some f =>
      let x ← toNumber (← Run.call f .undefined [v, w])
      pure (x < 0)
    | none =>
      let s ← Run.toText v
      let t ← Run.toText w
      pure (textLess s t)

/-- Puts a value into a list that is given backwards, behind the last one that it
need not stand before. -/
def insertItem (compare : Option Ref) (v : ScriptValue) : List ScriptValue → Run (List ScriptValue)
  | [] => pure [v]
  | w :: rest => do
    if ← isBefore compare v w then
      let inserted ← insertItem compare v rest
      pure (w :: inserted)
    else pure (v :: w :: rest)

/-- Sorts a short list by putting each value into those before it. -/
def insertItems (compare : Option Ref) (xs : List ScriptValue) : Run (List ScriptValue) := do
  pure (← foldItems (fun done v => insertItem compare v done) xs []).reverse

/-- Merges two sorted lists; `fuel` bounds their lengths. -/
def mergeItems (compare : Option Ref) : (fuel : Nat) → List ScriptValue → List ScriptValue →
    (done : List ScriptValue) → Run (List ScriptValue)
  | 0, xs, ys, done => pure (done.reverse ++ xs ++ ys)
  | _ + 1, [], ys, done => pure (done.reverse ++ ys)
  | _ + 1, xs, [], done => pure (done.reverse ++ xs)
  | fuel + 1, x :: xs, y :: ys, done => do
    if ← isBefore compare y x then mergeItems compare fuel (x :: xs) ys (y :: done)
    else mergeItems compare fuel xs (y :: ys) (x :: done)

/-- The length up to which lists are sorted by insertion. -/
def shortLength : Nat := 20

/-- Sorts a list without moving equal items past each other;
`fuel` bounds the number of halvings. -/
def sortItems (compare : Option Ref) : (fuel : Nat) → List ScriptValue → Run (List ScriptValue)
  | 0, xs => pure xs
  | fuel + 1, xs => do
    if xs.length ≤ shortLength then insertItems compare xs
    else
      let half := xs.length / 2
      let left ← sortItems compare fuel (xs.take half)
      let right ← sortItems compare fuel (xs.drop half)
      mergeItems compare (xs.length + 1) left right []

/-- The comparison function that a value is meant to be. -/
def comparison (v : ScriptValue) : Run (Option Ref) := do
  match v with
  | .undefined => pure none
  | v =>
    some <$> requireFunction "The comparison function must be either a function or undefined" v

/-- Copies the items of a list to the end of another, going into lists up to a depth. -/
def flatten (target : Ref) : (depth : Nat) → Listed → (next : Nat) → Run Nat
  | depth, l, next =>
    l.fold next fun _ v next => do
      match depth with
      | 0 =>
        create target (.ofNat next) v
        pure (next + 1)
      | depth + 1 =>
        if ← isArray v then flatten target depth (← listed v) next
        else
          create target (.ofNat next) v
          pure (next + 1)

/-- A new iterator over the indices of an object. -/
def arrayIterator (this : ScriptValue) (yields : Yield) : Run ScriptValue := do
  let ref ← toObject this
  ScriptValue.object <$> allocate
    (.empty (some Intrinsic.arrayIteratorPrototype.ref) (.arrayIterator (some ref) 0 yields))

/-- A position to start a search at. -/
def searchStart (i : Invocation) (length : Nat) : Run Nat := relativeIndex (i.arg 1) length 0

/-- Moves the item at one position to another, or the hole. -/
def moveItem (ref : Ref) (source target : Nat) : Run Unit := do
  if ← has ref (.ofNat source) then set ref (.ofNat target) (← get ref (.ofNat source))
  else deleteKey ref (.ofNat target)

/-- A new array that an array constructor makes from its arguments. -/
def constructArray (i : Invocation) : Run ScriptValue := do
  let proto ← prototypeFor i.target .arrayPrototype
  match i.args with
  | [.number x] =>
    if 0 ≤ x && x ≤ 4294967295 && x.floor == x then
      ScriptValue.object <$> arrayOfLength proto x.toUInt64.toNat
    else throwRangeError "invalid array length"
  | items => do
    let ref ← newArray items
    modifyObject ref fun o => { o with proto := some proto }
    pure (.object ref)

/-- A new list that a constructor makes, or an array if the receiver is none. -/
def madeBy (this : ScriptValue) (args : List ScriptValue) (length : Nat) : Run Ref := do
  match this with
  | .object c =>
    if c ≠ Intrinsic.arrayConstructor.ref && (← read fun s => s.heap.isConstructor c) then
      match ← Run.construct c args c with
      | .object ref => pure ref
      | _ => throwTypeError "not a constructor"
    else arrayOfLength Intrinsic.arrayPrototype.ref length
  | _ => arrayOfLength Intrinsic.arrayPrototype.ref length

/-- An array made from the items of an iterable or a list. -/
def arrayFrom (i : Invocation) : Run ScriptValue := do
  let mapper ← match i.arg 1 with
    | .undefined => pure none
    | f => do pure (some (← requireFunction ("\x60" ++ (← typeText f) ++ "\x60 is not callable") f))
  let mapped (v : ScriptValue) (n : Nat) : Run ScriptValue :=
    match mapper with
    | some f => Run.call f (i.arg 2) [v, lengthValue n]
    | none => pure v
  let source := i.arg 0
  match ← method source WellKnown.iterator.key with
  | some _ =>
    let ref ← madeBy i.this [] 0
    let r ← iterate (α := Empty) source 0 fun v n => do
      create ref (.ofNat n) (← mapped v n)
      pure (.ok (n + 1))
    match r with
    | .ok n =>
      setLength ref n
      pure (.object ref)
  | none =>
    let l ← listed source
    let ref ← madeBy i.this [lengthValue l.length] l.length
    forRange l.length 0 fun n => do
      create ref (.ofNat n) (← mapped (← get l.ref (.ofNat n)) n)
    setLength ref l.length
    pure (.object ref)

/-- How many items are taken out from `start` on: all of them, unless an argument says how many. -/
def removedCount (i : Invocation) (length start : Nat) : Run Nat := do
  match i.args with
  | [] => pure 0
  | [_] => pure (length - start)
  | _ =>
    let x ← toInteger (i.arg 1)
    pure (if x < 0 then 0 else min (floatInt x).toNat (length - start))

/-- Takes out and puts in items in the middle of a list; answers with those taken out. -/
def spliceItems (i : Invocation) : Run ScriptValue := do
  let l ← listed i.this
  let start ← relativeIndex (i.arg 0) l.length 0
  let removed ← removedCount i l.length start
  let inserted := i.args.drop 2
  requireSafeLength (l.length - removed + inserted.length)
    "length + number of arguments exceeds the max safe integer limit"
  let answer ← sameMake l.ref removed
  forRange removed 0 fun n => do
    if ← has l.ref (.ofNat (start + n)) then
      create answer (.ofNat n) (← get l.ref (.ofNat (start + n)))
  setLength answer removed
  let count := inserted.length
  let tail := l.length - start - removed
  if count < removed then
    forRange tail 0 fun n => moveItem l.ref (start + removed + n) (start + count + n)
    forRange (removed - count) 0 fun n => deleteKey l.ref (.ofNat (l.length - 1 - n))
  else if removed < count then
    forRange tail 0 fun n =>
      moveItem l.ref (start + removed + tail - 1 - n) (start + count + tail - 1 - n)
  let _ ← foldItems (fun n v => do
    set l.ref (.ofNat n) v
    pure (n + 1)) inserted start
  setLength l.ref (l.length - removed + count)
  pure (.object answer)

/-- Folds the items of a list by a callback, from one end. -/
def reduceItems (i : Invocation) (name : String) (position : Nat → Nat → Nat) :
    Run ScriptValue := do
  let l ← listed i.this
  let f ← requireFunction ("Array.prototype." ++ name ++ ": callback function is not callable")
    (i.arg 0)
  let start : Option ScriptValue := i.args[1]?
  let r ← scan (α := Empty) (fun n (acc : Option ScriptValue) => do
    let k := position l.length n
    if ← has l.ref (.ofNat k) then
      let v ← get l.ref (.ofNat k)
      match acc with
      | none => pure (.ok (some v))
      | some a => do
        pure (.ok (some (← Run.call f .undefined [a, v, lengthValue k, .object l.ref])))
    else pure (.ok acc)) l.length 0 start
  match r with
  | .ok (some v) => pure v
  | .ok none =>
    throwTypeError ("Array.prototype." ++ name ++
      ": called on an empty array and with no initial value")

/-- The first or last item that a callback accepts, with its position. -/
def findItem (i : Invocation) (name : String) (position : Nat → Nat → Nat) :
    Run (Option (Nat × ScriptValue)) := do
  let l ← listed i.this
  let f ← requireFunction ("Array.prototype." ++ name ++ ": predicate is not callable") (i.arg 0)
  search l.length 0 fun n => do
    let k := position l.length n
    let v ← get l.ref (.ofNat k)
    pure (if truth (← callOn f (i.arg 1) l k v) then some (k, v) else none)

/-- Positions counted from the start. -/
def fromStart (_ n : Nat) : Nat := n

/-- Positions counted from the end. -/
def fromEnd (length n : Nat) : Nat := length - 1 - n

/-- The position of a search, minus one if there is none. -/
def positionValue : Option Nat → ScriptValue
  | some n => lengthValue n
  | none => .number (-1)

end ScriptHost.Script.Library

namespace ScriptHost.Script

open Run Library

/-- A function of arrays. -/
def ArrayOp.run (op : ArrayOp) (i : Invocation) : Run ScriptValue :=
  match op with
  | construct => constructArray i
  | .isArray => do flag (← Run.isArray (i.arg 0))
  | fromItems => arrayFrom i
  | ofItems => do
    let ref ← madeBy i.this [lengthValue i.args.length] i.args.length
    let n ← foldItems (fun n v => do
      create ref (.ofNat n) v
      pure (n + 1)) i.args 0
    setLength ref n
    pure (.object ref)
  | itemAt => do
    let l ← listed i.this
    let x ← toInteger (i.arg 0)
    let n := if x < 0 then floatInt x + (l.length : Int) else floatInt x
    if n < 0 || (l.length : Int) ≤ n then pure .undefined else get l.ref (.ofNat n.toNat)
  | concat => do
    let ref ← toObject i.this
    let answer ← sameMake ref 0
    let n ← foldItems (fun n v => appendItems answer n v) (.object ref :: i.args) 0
    setLength answer n
    pure (.object answer)
  | copyWithin => do
    let l ← listed i.this
    let target ← relativeIndex (i.arg 0) l.length 0
    let start ← relativeIndex (i.arg 1) l.length 0
    let stop ← relativeIndex (i.arg 2) l.length l.length
    let count := min (stop - start) (l.length - target)
    let backwards := start < target && target < start + count
    forRange count 0 fun n =>
      let k := if backwards then count - 1 - n else n
      moveItem l.ref (start + k) (target + k)
    pure (.object l.ref)
  | entries => arrayIterator i.this .entry
  | keys => arrayIterator i.this .key
  | values => arrayIterator i.this .value
  | every => do
    let l ← listed i.this
    let f ← requireFunction "Array.prototype.every: callback is not callable" (i.arg 0)
    let found ← search l.length 0 fun n => do
      if ← has l.ref (.ofNat n) then
        let v ← get l.ref (.ofNat n)
        pure (if truth (← callOn f (i.arg 1) l n v) then none else Option.some ())
      else pure none
    flag found.isNone
  | some => do
    let l ← listed i.this
    let f ← requireFunction "Array.prototype.some: callback is not callable" (i.arg 0)
    let found ← search l.length 0 fun n => do
      if ← has l.ref (.ofNat n) then
        let v ← get l.ref (.ofNat n)
        pure (if truth (← callOn f (i.arg 1) l n v) then Option.some () else none)
      else pure none
    flag found.isSome
  | fill => do
    let l ← listed i.this
    let start ← relativeIndex (i.arg 1) l.length 0
    let stop ← relativeIndex (i.arg 2) l.length l.length
    forRange (stop - start) start fun n => set l.ref (.ofNat n) (i.arg 0)
    pure (.object l.ref)
  | filter => do
    let l ← listed i.this
    let f ← requireFunction "Array.prototype.filter: \x60callback\x60 must be callable" (i.arg 0)
    let answer ← sameMake l.ref 0
    let _ ← l.fold 0 fun n v next => do
      if truth (← callOn f (i.arg 1) l n v) then
        create answer (.ofNat next) v
        pure (next + 1)
      else pure next
    pure (.object answer)
  | find => do pure (((← findItem i "find" fromStart).map (·.2)).getD .undefined)
  | findIndex => do pure (positionValue ((← findItem i "findIndex" fromStart).map (·.1)))
  | findLast => do pure (((← findItem i "findLast" fromEnd).map (·.2)).getD .undefined)
  | findLastIndex => do pure (positionValue ((← findItem i "findLastIndex" fromEnd).map (·.1)))
  | flat => do
    let l ← listed i.this
    let depth ← match i.arg 0 with
      | .undefined => pure 1
      | v => do pure (floatInt (← toInteger v)).toNat
    let answer ← sameMake l.ref 0
    let _ ← flatten answer (min depth 4096) l 0
    pure (.object answer)
  | flatMap => do
    let l ← listed i.this
    let f ← requireFunction "flatMap mapper function is not callable" (i.arg 0)
    let answer ← sameMake l.ref 0
    let _ ← l.fold 0 fun n v next => do
      let w ← callOn f (i.arg 1) l n v
      if ← Run.isArray w then flatten answer 0 (← listed w) next
      else
        create answer (.ofNat next) w
        pure (next + 1)
    pure (.object answer)
  | forEach => do
    let l ← listed i.this
    let f ← requireFunction "Array.prototype.forEach: invalid callback function" (i.arg 0)
    l.fold () fun n v _ => do
      let _ ← callOn f (i.arg 1) l n v
    pure .undefined
  | includes => do
    let l ← listed i.this
    let start ← searchStart i l.length
    let found ← search (l.length - start) start fun n => do
      let v ← get l.ref (.ofNat n)
      pure (if sameKey v (i.arg 0) then Option.some () else none)
    flag found.isSome
  | indexOf => do
    let l ← listed i.this
    let start ← searchStart i l.length
    positionValue <$> search (l.length - start) start fun n => do
      if ← has l.ref (.ofNat n) then
        let v ← get l.ref (.ofNat n)
        pure (if strictlyEqual v (i.arg 0) then Option.some n else none)
      else pure none
  | lastIndexOf => do
    let l ← listed i.this
    let count ← if i.args.length < 2 then pure l.length
      else do
        let x ← toInteger (i.arg 1)
        let n := if x < 0 then floatInt x + (l.length : Int) else floatInt x
        pure (min l.length (n + 1).toNat)
    positionValue <$> search count 0 fun n => do
      let k := count - 1 - n
      if ← has l.ref (.ofNat k) then
        let v ← get l.ref (.ofNat k)
        pure (if strictlyEqual v (i.arg 0) then Option.some k else none)
      else pure none
  | join => do
    let l ← listed i.this
    let separator ← match i.arg 0 with
      | .undefined => pure [0x2C]
      | v => Run.toText v
    ScriptValue.string <$> joinItems l separator
  | map => do
    let l ← listed i.this
    let f ← requireFunction "Array.prototype.map: Callbackfn is not callable" (i.arg 0)
    let answer ← sameMake l.ref l.length
    l.fold () fun n v _ => do create answer (.ofNat n) (← callOn f (i.arg 1) l n v)
    pure (.object answer)
  | pop => do
    let l ← listed i.this
    if l.length = 0 then
      setLength l.ref 0
      pure .undefined
    else
      let k := Key.ofNat (l.length - 1)
      let v ← get l.ref k
      deleteKey l.ref k
      setLength l.ref (l.length - 1)
      pure v
  | push => do
    let l ← listed i.this
    requireSafeLength (l.length + i.args.length)
      "the length + the number of arguments exceed the maximum safe integer limit"
    let n ← foldItems (fun n v => do
      set l.ref (.ofNat n) v
      pure (n + 1)) i.args l.length
    setLength l.ref n
    pure (lengthValue n)
  | reduce => reduceItems i "reduce" fromStart
  | reduceRight => reduceItems i "reduceRight" fromEnd
  | reverse => do
    let l ← listed i.this
    forRange (l.length / 2) 0 fun n => do
      let low := Key.ofNat n
      let high := Key.ofNat (l.length - 1 - n)
      let hasLow ← has l.ref low
      let v ← if hasLow then get l.ref low else pure .undefined
      let hasHigh ← has l.ref high
      let w ← if hasHigh then get l.ref high else pure .undefined
      if hasHigh then set l.ref low w else if hasLow then deleteKey l.ref low
      if hasLow then set l.ref high v else if hasHigh then deleteKey l.ref high
    pure (.object l.ref)
  | shift => do
    let l ← listed i.this
    if l.length = 0 then
      setLength l.ref 0
      pure .undefined
    else
      let v ← get l.ref (.index 0)
      forRange (l.length - 1) 0 fun n => moveItem l.ref (n + 1) n
      deleteKey l.ref (.ofNat (l.length - 1))
      setLength l.ref (l.length - 1)
      pure v
  | slice => do
    let l ← listed i.this
    let start ← relativeIndex (i.arg 0) l.length 0
    let stop ← relativeIndex (i.arg 1) l.length l.length
    let answer ← sameMake l.ref (stop - start)
    forRange (stop - start) 0 fun n => do
      if ← has l.ref (.ofNat (start + n)) then
        create answer (.ofNat n) (← get l.ref (.ofNat (start + n)))
    setLength answer (stop - start)
    pure (.object answer)
  | sort => do
    let compare ← comparison (i.arg 0)
    let l ← listed i.this
    let sorted ← sortItems compare 64 (← presentItems l)
    let n ← foldItems (fun n v => do
      set l.ref (.ofNat n) v
      pure (n + 1)) sorted 0
    forRange (l.length - n) n fun k => deleteKey l.ref (.ofNat k)
    pure (.object l.ref)
  | splice => spliceItems i
  | toReversed => do
    let items ← listItems (← toObject i.this)
    arrayValue items.reverse
  | toSorted => do
    let compare ← comparison (i.arg 0)
    let items ← listItems (← toObject i.this)
    arrayValue (← sortItems compare 64 items)
  | toSpliced => do
    let ref ← toObject i.this
    let items ← listItems ref
    let start ← relativeIndex (i.arg 0) items.length 0
    let removed ← removedCount i items.length start
    arrayValue (items.take start ++ i.args.drop 2 ++ items.drop (start + removed))
  | .toText => do
    let ref ← toObject i.this
    let f ← getNamed ref "join"
    if ← isCallable f then callValue f (.object ref) [] else tagText (.object ref)
  | unshift => do
    let l ← listed i.this
    let count := i.args.length
    if 0 < count then
      requireSafeLength (l.length + count)
        "length + number of arguments exceeds the max safe integer limit"
      forRange l.length 0 fun n => moveItem l.ref (l.length - 1 - n) (l.length - 1 - n + count)
      let _ ← foldItems (fun n v => do
        set l.ref (.ofNat n) v
        pure (n + 1)) i.args 0
    setLength l.ref (l.length + count)
    pure (lengthValue (l.length + count))
  | withItem => do
    let ref ← toObject i.this
    let items ← listItems ref
    let x ← toInteger (i.arg 0)
    let n := if x < 0 then floatInt x + (items.length : Int) else floatInt x
    if n < 0 || (items.length : Int) ≤ n then throwRangeError "invalid index"
    arrayValue (items.set n.toNat (i.arg 1))

end ScriptHost.Script
