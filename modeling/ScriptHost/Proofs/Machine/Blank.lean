import ScriptHost.Proofs.Machine.Trust

/-!
# A machine without a language

The blank machine knows objects and nothing else: source of any kind completes with the missing
value, properties are not kept, and calling a function of the host calls the host.  It is the least
machine on which everything that a context does can be carried out, and it meets what is relied on.
-/

namespace ScriptHost.Machine

/-- An object of the blank machine: how it looks, and the host function that it calls. -/
structure BlankObject where
  shape : Shape
  native : Option NativeId := none

/-- The run has ended with `a`, and changed nothing. -/
def still {σ α : Type} (a : α) (s : σ) : Act σ α := .done s (.ok a)

/-- A new object on top of those that there are. -/
def allocate (object : BlankObject) (s : List BlankObject) : Ref × List BlankObject :=
  (s.length, s ++ [object])

/-- A call: of the host, or of nothing. -/
def callBlank (ref : Ref) (this : ScriptValue) (args : List ScriptValue) (s : List BlankObject) :
    Act (List BlankObject) ScriptValue :=
  match s[ref]?.bind BlankObject.native with
  | some id => .native s id this args fun s' reply => .done s' (reply.mapError (⟨.value ·, []⟩))
  | none => .done s (.ok .undefined)

/-- The machine without a language. -/
def blank : Machine where
  State := List BlankObject
  fresh := [⟨.plain, none⟩]
  global _ := 0
  shape s ref := (s[ref]?.map BlankObject.shape).getD .plain
  isError _ _ := false
  newArray := allocate ⟨.array, none⟩
  newObject := allocate ⟨.plain, none⟩
  newError _ _ := allocate ⟨.plain, none⟩
  newNative _ id := allocate ⟨.function, some id⟩
  describe _ _ := []
  append _ _ := still ()
  define _ _ _ := still ()
  defineHidden _ _ _ := still ()
  length _ := still 0
  element _ _ := still .undefined
  keys _ := still []
  isEnumerable _ _ := still false
  hasOwn _ _ := still false
  has _ _ := still false
  get _ _ := still .undefined
  setGlobal _ _ := still ()
  toObject v s := match v with
    | .object ref => .done s (.ok ref)
    | _ => .done s (.error ⟨.value .undefined, []⟩)
  toText _ := still []
  run _ _ := still .undefined
  call := callBlank

theorem later_allocate (object : BlankObject) (s : List BlankObject) :
    blank.Later s (allocate object s).2 := by
  intro ref href
  have hs : (s[ref]?.map BlankObject.shape).getD .plain = .array := href
  show ((s ++ [object])[ref]?.map BlankObject.shape).getD .plain = .array
  cases hlookup : s[ref]? with
  | none => simp [hlookup] at hs
  | some found =>
    obtain ⟨hlt, -⟩ := List.getElem?_eq_some_iff.mp hlookup
    rw [List.getElem?_append_left hlt, hlookup]
    rwa [hlookup] at hs

theorem keepsArrays_blank : blank.KeepsArrays where
  runs hf s := by
    cases hf with
    | toObject v => cases v <;> exact .refl s
    | call ref this args =>
      show (callBlank ref this args s).KeepsArrays blank s
      unfold callBlank
      split
      · exact ⟨.refl s, fun s' reply _ => .refl s'⟩
      · exact .refl s
    | _ => exact .refl s
  makes hf s := by
    cases hf with
    | newArray => exact later_allocate _ s
    | newObject => exact later_allocate _ s
    | newError kind message => exact later_allocate _ s
    | newNative name id => exact later_allocate _ s
  newArray (s : List BlankObject) := by
    show ((s ++ [_])[s.length]?.map BlankObject.shape).getD .plain = .array
    simp

theorem neverCrashes_blank : blank.NeverCrashes := by
  intro α f hf s
  cases hf with
  | toObject v => cases v <;> trivial
  | call ref this args =>
    show (callBlank ref this args s).NeverCrashes
    unfold callBlank
    split
    · exact fun _ _ => trivial
    · trivial
  | _ => trivial

/-! ## Arrays that refuse -/

/-- The run has ended with a thrown value. -/
def refuse {σ α : Type} (s : σ) : Act σ α := .done s (.error ⟨.value .undefined, []⟩)

/-- The blank machine with arrays of length one, which throw when they are to give an element or to
take one.  It does not call the host. -/
def grudging : Machine :=
  { blank with
    append := fun _ _ => refuse
    length := fun _ => still 1
    element := fun _ _ => refuse
    call := fun _ _ _ => still .undefined }

theorem keepsArrays_grudging : grudging.KeepsArrays where
  runs hf s := by
    cases hf with
    | toObject v => cases v <;> exact .refl s
    | _ => exact .refl s
  makes hf s := by
    cases hf with
    | newArray => exact later_allocate _ s
    | newObject => exact later_allocate _ s
    | newError kind message => exact later_allocate _ s
    | newNative name id => exact later_allocate _ s
  newArray := keepsArrays_blank.newArray

theorem neverCrashes_grudging : grudging.NeverCrashes := by
  intro α f hf s
  cases hf with
  | toObject v => cases v <;> trivial
  | _ => trivial

end ScriptHost.Machine
