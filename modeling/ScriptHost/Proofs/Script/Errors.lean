import ScriptHost.Proofs.Machine.Errors
import ScriptHost.Proofs.Script.Marking

/-!
# Errors of the script machine

An error that the host makes has its message of its own, and its trace once one was recorded.  Its
name is looked for on the prototype of its kind.  As long as the names can be read off there, all
that is relied on of such errors holds of the script machine.

* `madeError`: an error as the host makes it, with its trace if it has one;
* `Heap.NamesErrors`: the name is a string that is found behind the errors of a kind;
* `errorStore`: **the laws, under every driver.**
-/

namespace ScriptHost.Script

variable {s t : State} {ref : Ref} {kind : ErrorKind} {message : Units} {trace : Option Units}

/-! ## The errors -/

/-- The key of the name. -/
def nameKey : Key := .ofUnits (Text.units "name")

/-- An error as the host makes it, with its trace if it has one. -/
def madeError (kind : ErrorKind) (message : Units) : Option Units → Object
  | none => Run.errorObject kind.errorClass message none
  | some trace =>
    (Run.errorObject kind.errorClass message none).put stackKey (.hidden (.string trace))

namespace madeError

theorem kind_eq (kind : ErrorKind) (message : Units) (trace : Option Units) :
    (madeError kind message trace).kind = .error none := by cases trace <;> rfl

theorem proto_eq (kind : ErrorKind) (message : Units) (trace : Option Units) :
    (madeError kind message trace).proto = some kind.errorClass.prototype.ref := by
  cases trace <;> rfl

theorem find?_name (kind : ErrorKind) (message : Units) (trace : Option Units) :
    (madeError kind message trace).find? nameKey = none := by cases trace <;> rfl

theorem find?_message (kind : ErrorKind) (message : Units) (trace : Option Units) :
    (madeError kind message trace).find? (.ofUnits (Text.units "message")) =
      some (.hidden (.string message)) := by cases trace <;> rfl

theorem find?_stack (kind : ErrorKind) (message : Units) (trace : Option Units) :
    (madeError kind message trace).find? stackKey = trace.map fun text =>
      .hidden (.string text) := by
  cases trace <;> rfl

end madeError

/-! ## The prototypes -/

/-- The prototypes of the errors of a kind are in the store, and the name of the kind is found
there, as data. -/
structure Heap.NamesErrors (h : Heap) (kind : ErrorKind) : Prop where
  inside : ∀ last, h.OnChain kind.errorClass.prototype.ref last → last < h.objects.size
  name : ∃ p, h.search nameKey kind.errorClass.prototype.ref = .found p ∧
    p.value? = some (.string (Text.units kind.name))

theorem Heap.NamesErrors.grown (h : s.heap.NamesErrors kind) (new : List Object) :
    (s.grown new).heap.NamesErrors kind :=
  ⟨inside_grown h.inside new, by rw [search_grown h.inside]; exact h.name⟩

theorem Heap.NamesErrors.replaced {o : Object} (h : s.heap.NamesErrors kind) (hlt : ref < s.next)
    (ho : o.AlikeFor nameKey (s.heap.lookUp ref)) : (s.replaced ref o).heap.NamesErrors kind where
  inside last hchain :=
    Nat.lt_of_lt_of_eq (h.inside last ((onChain_replaced hlt ho.proto).mp hchain))
      (next_replaced s ref o).symm
  name := by rw [search_replaced_of_alike hlt ho]; exact h.name

/-! ## What the errors show -/

/-- The object is such an error. -/
def IsMadeError (s : State) (ref : Ref) (kind : ErrorKind) (message : Units)
    (trace : Option Units) : Prop :=
  s.heap.lookUp ref = madeError kind message trace

namespace IsMadeError

theorem isErrorObject (h : IsMadeError s ref kind message trace) :
    Script.isErrorObject s ref = true := by
  rw [Script.isErrorObject, h, madeError.kind_eq]

theorem not_proxy (h : IsMadeError s ref kind message trace) (ends : Option (Ref × Ref))
    (calls constructs : Bool) : (s.heap.lookUp ref).kind ≠ .proxy ends calls constructs := by
  rw [h, madeError.kind_eq]
  exact Kind.noConfusion

/-- The name is looked for behind the error, as it has none of its own. -/
theorem search_name (h : IsMadeError s ref kind message trace) :
    s.heap.search nameKey ref = s.heap.search nameKey kind.errorClass.prototype.ref := by
  refine Heap.search_eq_of_proto ?_ (by rw [h, madeError.proto_eq])
  rintro (⟨ends, calls, constructs, hkind⟩ | hfind | hcloses)
  · exact h.not_proxy ends calls constructs hkind
  · rw [h, madeError.find?_name] at hfind
    cases hfind
  · have hopen : (madeError kind message trace).closes? nameKey = none :=
      Object.closes?_eq_none (fun _ _ hkind => by rw [madeError.kind_eq] at hkind; cases hkind) _
    rw [h, hopen] at hcloses
    cases hcloses

/-- **What an error shows is found as data.** -/
theorem exists_found {key : String} {text : Units} (h : IsMadeError s ref kind message trace)
    (hnames : s.heap.NamesErrors kind) (hshows : ErrorShows kind message trace key text) :
    ∃ p, s.heap.search (.ofUnits (Text.units key)) ref = .found p ∧
      p.value? = some (.string text) := by
  cases hshows with
  | name =>
    obtain ⟨p, hfound, hvalue⟩ := hnames.name
    exact ⟨p, h.search_name.trans hfound, hvalue⟩
  | message =>
    exact ⟨_, search_own h.not_proxy (by rw [h, madeError.find?_message]), rfl⟩
  | trace htrace =>
    exact ⟨_, search_own h.not_proxy
      (by rw [h]; exact (madeError.find?_stack ..).trans (by rw [htrace]; rfl)),
      rfl⟩

/-- The trace is recorded, and the names are where they were. -/
theorem record (h : IsMadeError s ref kind message none) (text : Units) :
    Marked text s (.object ref) (s.replaced ref (madeError kind message (some text))) := by
  have htakes : TakesTrace s ref := by
    refine ⟨h.isErrorObject, ?_, ?_⟩
    · rw [h]
      rfl
    · rw [h, madeError.find?_stack, Option.map_none]
  have hmarked : Marked text s (.object ref) _ := .recorded htakes
  rwa [h] at hmarked

end IsMadeError

/-! ## The laws -/

/-- **The script machine makes errors**, while nobody has tampered with where their
names are found. -/
def errorStore (driver : Driver) : ErrorStore (scriptMachineBy driver) where
  pristine s := ∀ kind, Heap.NamesErrors (State.heap s) kind
  isMade := IsMadeError
  newError {s} kind message hnames := by
    have hstore : (scriptMachineBy driver).newError kind message s =
        (State.next s, State.grown s [madeError kind message none]) := State.store_eq s _
    rw [hstore]
    exact ⟨fun kind => (hnames kind).grown _, State.lookUp_next s _ []⟩
  isError h := IsMadeError.isErrorObject h
  hasOwn {s ref kind message trace} h := by
    have hown := driver.drive_ok (hasOwn_of_isErrorObject (k := stackKey)
      (IsMadeError.isErrorObject h))
    have hfind : ((State.heap s).lookUp ref).find? stackKey = _ :=
      (congrArg (Object.find? · stackKey) h).trans (madeError.find?_stack kind message trace)
    rw [hfind, Option.isSome_map] at hown
    exact hown
  defineHidden {s ref kind message} text hnames h := by
    have hlt := lt_next_of_isErrorObject (IsMadeError.isErrorObject h)
    have htraceless : ((State.heap s).lookUp ref).find? stackKey = none :=
      (congrArg (Object.find? · stackKey) h).trans (madeError.find?_stack kind message none)
    have halike : (madeError kind message (some text)).AlikeFor nameKey
        ((State.heap s).lookUp ref) := by
      rw [show (State.heap s).lookUp ref = _ from h]
      exact ⟨rfl, rfl, rfl⟩
    exact ⟨_, defineHidden_of_marked (IsMadeError.isErrorObject h) driver htraceless
      (IsMadeError.record h text),
      fun kind => (hnames kind).replaced hlt halike, lookUp_replaced hlt _⟩
  toObject {s ref _ _ _} _ := driver.drive_ok (x := Run.toObject (.object ref)) rfl
  has {s ref kind message trace key text} hnames h hshows := by
    obtain ⟨p, hfound, -⟩ := IsMadeError.exists_found h (hnames kind) hshows
    exact driver.drive_ok (has_of_found hfound)
  get {s ref kind message trace key text} hnames h hshows := by
    obtain ⟨p, hfound, hvalue⟩ := IsMadeError.exists_found h (hnames kind) hshows
    exact driver.drive_ok (get_of_found hfound hvalue)
  toText s text := driver.drive_ok (x := Run.toText (.string text)) rfl

end ScriptHost.Script
