import ScriptHost.Proofs.Machine.Blank
import ScriptHost.Proofs.Text.Exchange

/-!
# Machines that make errors

What is relied on of the errors that the host makes while the prototypes of the error constructors
are as they were: such an error shows its kind's name, its message and, once one was recorded, its
trace, all of them strings that can be read without running any script.

* `ErrorKind.name`, `ErrorShows`: what an error shows;
* `ErrorStore`: the laws;
* `Machine.relaying`, `relayingStore`: a machine that makes errors and calls the
  host, and little else.
-/

namespace ScriptHost

variable {M : Machine}

/-- The name that errors of this kind show. -/
def ErrorKind.name : ErrorKind → String
  | error => "Error"
  | typeError => "TypeError"
  | referenceError => "ReferenceError"
  | syntaxError => "SyntaxError"
  | rangeError => "RangeError"

/-- An error of this kind, with this message and this trace if it has one, shows the text under the
key. -/
inductive ErrorShows (kind : ErrorKind) (message : Units) (trace : Option Units) :
    String → Units → Prop
  | name : ErrorShows kind message trace "name" (Text.units kind.name)
  | message : ErrorShows kind message trace "message" message
  | trace {text : Units} (h : trace = some text) : ErrorShows kind message trace "stack" text

/-- A machine that makes errors. -/
structure ErrorStore (M : Machine) where
  /-- Nobody has tampered with the prototypes of the error constructors. -/
  pristine : M.State → Prop
  /-- The object is an error of this kind with this message, to which nothing was done but that this
  trace was recorded on it. -/
  isMade : M.State → Ref → ErrorKind → Units → Option Units → Prop
  newError : ∀ {s} kind message, pristine s →
    pristine (M.newError kind message s).2 ∧
      isMade (M.newError kind message s).2 (M.newError kind message s).1 kind message none
  isError : ∀ {s ref kind message trace}, isMade s ref kind message trace → M.isError s ref = true
  /-- A trace is an own property. -/
  hasOwn : ∀ {s ref kind message trace}, isMade s ref kind message trace →
    M.hasOwn ref (Text.units "stack") s = .done s (.ok trace.isSome)
  /-- A trace can be recorded where there is none. -/
  defineHidden : ∀ {s ref kind message} text, pristine s → isMade s ref kind message none →
    ∃ s', M.defineHidden ref (Text.units "stack") (.string text) s = .done s' (.ok ()) ∧
      pristine s' ∧ isMade s' ref kind message (some text)
  toObject : ∀ {s ref kind message trace}, isMade s ref kind message trace →
    M.toObject (.object ref) s = .done s (.ok ref)
  has : ∀ {s ref kind message trace key text}, pristine s → isMade s ref kind message trace →
    ErrorShows kind message trace key text → M.has ref (Text.units key) s = .done s (.ok true)
  get : ∀ {s ref kind message trace key text}, pristine s → isMade s ref kind message trace →
    ErrorShows kind message trace key text → M.get ref (Text.units key) s =
      .done s (.ok (.string text))
  /-- A string is printed as it is. -/
  toText : ∀ s text, M.toText (.string text) s = .done s (.ok text)

/-! ## The least such machine -/

/-- An error with its message, and its trace if it has one. -/
structure ErrorRecord where
  kind : ErrorKind
  message : Units
  trace : Option Units

/-- An object of the relaying machine. -/
structure RelayedObject where
  shape : Shape
  error : Option ErrorRecord

/-- What an error has under a key. -/
def ErrorRecord.property (e : ErrorRecord) (key : Units) : Option ScriptValue :=
  [(Text.units "name", some (ScriptValue.string (Text.units e.kind.name))),
    (Text.units "message", some (.string e.message)),
    (Text.units "stack", e.trace.map .string)].lookup key |>.join

theorem ErrorRecord.property_stack (e : ErrorRecord) :
    e.property (Text.units "stack") = e.trace.map .string := by
  have hname : (Text.units "stack" == Text.units "name") = false := by simp [Text.units_inj]
  have hmessage : (Text.units "stack" == Text.units "message") = false := by simp [Text.units_inj]
  simp [property, List.lookup_cons, hname, hmessage]

theorem ErrorRecord.property_of_shows {e : ErrorRecord} {key : String} {text : Units}
    (h : ErrorShows e.kind e.message e.trace key text) :
    e.property (Text.units key) = some (.string text) := by
  have hmessage : (Text.units "message" == Text.units "name") = false := by simp [Text.units_inj]
  cases h with
  | name => simp [property]
  | message => simp [property, List.lookup_cons, hmessage]
  | trace h => simp [e.property_stack, h]

namespace Machine

/-- A new object behind those that there are. -/
def addRelayed (o : RelayedObject) (s : List RelayedObject) : Ref × List RelayedObject :=
  (s.length, s ++ [o])

/-- The object, if it is an error. -/
def relayedError (ref : Ref) (s : List RelayedObject) : Option ErrorRecord :=
  s[ref]?.bind RelayedObject.error

/-- What the object has under the key, if it is an error. -/
def relayedProperty (ref : Ref) (key : Units) (s : List RelayedObject) : Option ScriptValue :=
  (relayedError ref s).bind fun e => e.property key

/-- Records a text as the trace of an error, and does nothing to any other object. -/
def recordText (ref : Ref) (v : ScriptValue) (s : List RelayedObject) : List RelayedObject :=
  match s[ref]?, v with
  | some ⟨shape, some e⟩, .string text => s.set ref ⟨shape, some { e with trace := some text }⟩
  | _, _ => s

/-- Calls the first function of the host, and lets what that throws pass. -/
def relay (line : String) (s : List RelayedObject) : Act (List RelayedObject) ScriptValue :=
  .native s ⟨0⟩ .undefined [] fun s' reply => .done s' (reply.mapError (⟨.value ·, [line]⟩))

/-- The machine that makes errors; all source and all functions call the host. -/
def relaying : Machine where
  State := List RelayedObject
  fresh := [⟨.plain, none⟩]
  global _ := 0
  shape s ref := (s[ref]?.map RelayedObject.shape).getD .plain
  isError s ref := (relayedError ref s).isSome
  newArray := addRelayed ⟨.array, none⟩
  newObject := addRelayed ⟨.plain, none⟩
  newError kind message := addRelayed ⟨.plain, some ⟨kind, message, none⟩⟩
  newNative _ _ := addRelayed ⟨.function, none⟩
  describe _ _ := []
  append _ _ := still ()
  define _ _ _ := still ()
  defineHidden ref _ v s := .done (recordText ref v s) (.ok ())
  length _ := still 0
  element _ _ := still .undefined
  keys _ := still []
  isEnumerable _ _ := still false
  hasOwn ref key s := .done s (.ok (relayedProperty ref key s).isSome)
  has ref key s := .done s (.ok (relayedProperty ref key s).isSome)
  get ref key s := .done s (.ok ((relayedProperty ref key s).getD .undefined))
  setGlobal _ _ := still ()
  toObject v s := match v with
    | .object ref => .done s (.ok ref)
    | _ => .done s (.error ⟨.value .undefined, []⟩)
  toText v s := match v with
    | .string text => .done s (.ok text)
    | _ => .done s (.ok [])
  run _ filename := relay filename
  call _ _ _ := relay "call"

/-- The object is such an error. -/
def IsRelayed (s : List RelayedObject) (ref : Ref) (kind : ErrorKind) (message : Units)
    (trace : Option Units) : Prop := s[ref]? = some ⟨.plain, some ⟨kind, message, trace⟩⟩

section

variable {s : List RelayedObject} {ref : Ref} {kind : ErrorKind} {message : Units}
  {trace : Option Units}

theorem relayedError_eq (h : IsRelayed s ref kind message trace) :
    relayedError ref s = some ⟨kind, message, trace⟩ := by
  rw [relayedError, h]
  rfl

theorem relayedProperty_eq (h : IsRelayed s ref kind message trace) (key : Units) :
    relayedProperty ref key s = (ErrorRecord.mk kind message trace).property key := by
  rw [relayedProperty, relayedError_eq h]
  rfl

theorem relayedProperty_of_shows {key : String} {text : Units}
    (h : IsRelayed s ref kind message trace) (hshows : ErrorShows kind message trace key text) :
    relayedProperty ref (Text.units key) s = some (.string text) :=
  (relayedProperty_eq h _).trans
    (ErrorRecord.property_of_shows (e := ⟨kind, message, trace⟩) hshows)

theorem isRelayed_addRelayed (s : List RelayedObject) (kind : ErrorKind) (message : Units) :
    IsRelayed (addRelayed ⟨.plain, some ⟨kind, message, none⟩⟩ s).2 s.length kind message none :=
  List.getElem?_concat_length

theorem isRelayed_recordText (h : IsRelayed s ref kind message trace) (text : Units) :
    IsRelayed (recordText ref (.string text) s) ref kind message (some text) := by
  have hfound : s[ref]? = some ⟨.plain, some ⟨kind, message, trace⟩⟩ := h
  have hlt : ref < s.length := (List.getElem?_eq_some_iff.mp hfound).1
  simp only [recordText, hfound]
  exact List.getElem?_set_self hlt

end

/-- An error of the relaying machine can be relied on, whatever else is done. -/
def relayingStore : ErrorStore relaying where
  pristine _ := True
  isMade := IsRelayed
  newError {s} kind message _ := ⟨trivial, isRelayed_addRelayed s kind message⟩
  isError {s ref kind message trace} h := by
    show (relayedError ref s).isSome = true
    rw [relayedError_eq h]
    rfl
  hasOwn {s ref kind message trace} h := by
    show Act.done s (.ok (relayedProperty ref (Text.units "stack") s).isSome) = _
    rw [relayedProperty_eq h, ErrorRecord.property_stack, Option.isSome_map]
  defineHidden text _ h := ⟨_, rfl, trivial, isRelayed_recordText h text⟩
  toObject _ := rfl
  has {s ref kind message trace key text} _ h hshows := by
    show Act.done s (.ok (relayedProperty ref (Text.units key) s).isSome) = _
    rw [relayedProperty_of_shows h hshows]
    rfl
  get {s ref kind message trace key text} _ h hshows := by
    show Act.done s (.ok ((relayedProperty ref (Text.units key) s).getD .undefined)) = _
    rw [relayedProperty_of_shows h hshows]
    rfl
  toText _ _ := rfl

theorem later_of_map_shape {s s' : List RelayedObject}
    (h : ∀ (ref : Ref) (shape : Shape), s[ref]?.map RelayedObject.shape = some shape →
      s'[ref]?.map RelayedObject.shape = some shape) : relaying.Later s s' := by
  intro ref href
  have hs : (s[ref]?.map RelayedObject.shape).getD .plain = .array := href
  show (s'[ref]?.map RelayedObject.shape).getD .plain = .array
  cases hshape : s[ref]?.map RelayedObject.shape with
  | none => simp [hshape] at hs
  | some shape =>
    rw [h ref shape hshape]
    rwa [hshape] at hs

theorem later_addRelayed (o : RelayedObject) (s : List RelayedObject) :
    relaying.Later s (addRelayed o s).2 := by
  refine later_of_map_shape fun ref shape h => ?_
  obtain ⟨found, hfound, rfl⟩ := Option.map_eq_some_iff.mp h
  have hlt : ref < s.length := (List.getElem?_eq_some_iff.mp hfound).1
  rw [addRelayed, List.getElem?_append_left hlt, hfound, Option.map_some]

theorem later_recordText (ref : Ref) (v : ScriptValue) (s : List RelayedObject) :
    relaying.Later s (recordText ref v s) := by
  unfold recordText
  split
  · next shape e text hfound =>
    refine later_of_map_shape fun other shape' h => ?_
    by_cases heq : ref = other
    · subst heq
      have hlt : ref < s.length := (List.getElem?_eq_some_iff.mp hfound).1
      rw [List.getElem?_set_self hlt]
      rwa [hfound] at h
    · rwa [List.getElem?_set_ne heq]
  · exact Later.refl (M := relaying) s

theorem keepsArrays_relaying : relaying.KeepsArrays where
  runs hf s := by
    cases hf with
    | defineHidden ref name v => exact later_recordText ref v s
    | toObject v => cases v <;> exact .refl s
    | toText v => cases v <;> exact .refl s
    | run source filename => exact ⟨.refl s, fun s' _ _ => .refl s'⟩
    | call ref this args => exact ⟨.refl s, fun s' _ _ => .refl s'⟩
    | _ => exact .refl s
  makes hf s := by
    cases hf with
    | newArray => exact later_addRelayed _ s
    | newObject => exact later_addRelayed _ s
    | newError kind message => exact later_addRelayed _ s
    | newNative name id => exact later_addRelayed _ s
  newArray (s : List RelayedObject) := by
    show ((s ++ [_])[s.length]?.map RelayedObject.shape).getD .plain = .array
    simp

end Machine

end ScriptHost
