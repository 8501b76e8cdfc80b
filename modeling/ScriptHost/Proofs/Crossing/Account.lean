import ScriptHost.Proofs.Crossing.Notes

/-!
# The account of a conversion

An `Account` is kept from the notes of a conversion: what is left of the one budget, which readings
are in progress and how far each has come, and whether a value is waiting to be read.  Its steps say
what a conversion may do next.  A slot is read only if its value has been fetched, and only if fewer
readings than `limit` are in progress; an element is fetched only from the container of the
innermost reading, and only against what has been charged for that container; a container is charged
only once, as much as the machine said, and only what is left of the budget.

* `Account.Step`, and `Account.start` for a conversion with a budget;
* the bounds on notes that can be accounted for: `fetches_le`, `readings_le`, `nesting_le`.
-/

namespace ScriptHost

namespace ReadNote

/-- An element or a member is asked for. -/
def isFetch : ReadNote → Bool
  | fetch _ => true
  | _ => false

/-- A reading begins. -/
def isEnter : ReadNote → Bool
  | enter _ => true
  | _ => false

/-- A reading has ended. -/
def isLeave : ReadNote → Bool
  | leave => true
  | _ => false

end ReadNote

/-- How far a reading has come. -/
inductive ReadStage
  | entered
  /-- The machine has said how many elements or keys there are. -/
  | sized (count : Nat)
  /-- They have been charged; so many of them may still be asked for. -/
  | charged (left : Nat)

/-- What may still be asked for. -/
def ReadStage.quota : ReadStage → Nat
  | charged left => left
  | _ => 0

/-- A reading in progress: its slot, and how far it has come. -/
structure Reading where
  slot : Nat
  stage : ReadStage

/-- The account of a conversion. -/
structure Account where
  /-- What is left of the budget. -/
  budget : Nat
  /-- A value has been fetched and not been read. -/
  waiting : Bool
  /-- The readings in progress, the innermost first. -/
  readings : List Reading

namespace Account

/-- The account of a conversion that is about to begin. -/
def start (budget : Nat) : Account := ⟨budget, true, []⟩

/-- What may happen to the account, with at most `limit` readings in progress at once. -/
inductive Step (limit : Nat) : Account → ReadNote → Account → Prop
  | enter {budget slot : Nat} {readings : List Reading} (h : readings.length < limit) :
    Step limit ⟨budget, true, readings⟩ (.enter slot) ⟨budget, false, ⟨slot, .entered⟩ :: readings⟩
  | leave {budget : Nat} {waiting : Bool} {reading : Reading} {readings : List Reading} :
    Step limit ⟨budget, waiting, reading :: readings⟩ .leave ⟨budget, waiting, readings⟩
  | length {budget slot count : Nat} {waiting : Bool} {readings : List Reading} :
    Step limit ⟨budget, waiting, ⟨slot, .entered⟩ :: readings⟩ (.length count)
      ⟨budget, waiting, ⟨slot, .sized count⟩ :: readings⟩
  | keys {budget slot : Nat} {waiting : Bool} {readings : List Reading} {keys : List (List UInt8)} :
    Step limit ⟨budget, waiting, ⟨slot, .entered⟩ :: readings⟩ (.keys keys)
      ⟨budget, waiting, ⟨slot, .sized keys.length⟩ :: readings⟩
  | charge {left slot count : Nat} {waiting : Bool} {readings : List Reading} :
    Step limit ⟨count + left, waiting, ⟨slot, .sized count⟩ :: readings⟩ (.charge count)
      ⟨left, waiting, ⟨slot, .charged count⟩ :: readings⟩
  | fetch {budget slot left : Nat} {waiting : Bool} {readings : List Reading} :
    Step limit ⟨budget, waiting, ⟨slot, .charged (left + 1)⟩ :: readings⟩ (.fetch slot)
      ⟨budget, true, ⟨slot, .charged left⟩ :: readings⟩
  | replace {budget slot : Nat} {waiting : Bool} {readings : List Reading} :
    Step limit ⟨budget, waiting, ⟨slot, .entered⟩ :: readings⟩ .replace
      ⟨budget, waiting, ⟨slot, .entered⟩ :: readings⟩

/-- What the readings in progress may still ask for. -/
def quotas : List Reading → Nat
  | [] => 0
  | reading :: readings => reading.stage.quota + quotas readings

/-- What may be fetched yet, now or after a charge. -/
def credit (a : Account) : Nat := a.budget + quotas a.readings

variable {limit budget : Nat} {a b : Account} {note : ReadNote} {notes : List ReadNote}

theorem Step.credit_le (h : Step limit a note b) :
    (if note.isFetch then 1 else 0) + b.credit ≤ a.credit := by
  cases h <;> grind [credit, quotas, ReadStage.quota, ReadNote.isFetch]

theorem Step.waiting_le (h : Step limit a note b) :
    (if note.isEnter then 1 else 0) + b.waiting.toNat ≤
      a.waiting.toNat + if note.isFetch then 1 else 0 := by
  cases h <;> grind [ReadNote.isFetch, ReadNote.isEnter]

theorem Step.room_le (h : Step limit a note b) :
    (if note.isEnter then 1 else 0) + (limit - b.readings.length) ≤
      (limit - a.readings.length) + if note.isLeave then 1 else 0 := by
  cases h <;> grind [ReadNote.isEnter, ReadNote.isLeave]

theorem fetches_le (h : Runs (Step limit) (start budget) notes b) :
    notes.countP ReadNote.isFetch ≤ budget := by
  have hcredit := h.potential credit ReadNote.isFetch (fun _ => false)
    fun hstep => by simpa using hstep.credit_le
  have hstart : (start budget).credit = budget := rfl
  rw [hstart, List.countP_false, Function.const_apply] at hcredit
  omega

theorem readings_le (h : Runs (Step limit) (start budget) notes b) :
    notes.countP ReadNote.isEnter ≤ budget + 1 := by
  have hwaiting := h.potential (fun a => a.waiting.toNat) _ _ Step.waiting_le
  have hfetches := fetches_le h
  have hstart : (start budget).waiting.toNat = 1 := rfl
  omega

theorem nesting_le (h : Runs (Step limit) (start budget) notes b) {before : List ReadNote}
    (hbefore : before <+: notes) :
    before.countP ReadNote.isEnter ≤ before.countP ReadNote.isLeave + limit := by
  obtain ⟨rest, rfl⟩ := hbefore
  obtain ⟨c, hc, -⟩ := h.exists_of_append
  have hroom := hc.potential (fun a => limit - a.readings.length) _ _ Step.room_le
  have hstart : (start budget).readings.length = 0 := rfl
  omega

end Account

end ScriptHost
