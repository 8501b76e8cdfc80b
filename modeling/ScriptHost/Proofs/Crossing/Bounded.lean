import ScriptHost.Proofs.Crossing.Account
import ScriptHost.Proofs.Crossing.Discipline
import ScriptHost.Proofs.Crossing.Thrown
import ScriptHost.Proofs.Machine.Silent

/-!
# Conversions do bounded work

Whatever script does while a value is converted, the notes of the conversion can be accounted for:
the value may be cyclic, it may share its parts, it may grow as it is read.  So the work is bounded
by the settings alone, and there is an end to it if there is one to each call of the machine.

* `Marshaller.Pays`: what one reading does to the account; `pays_readNoted`, by way of
  `readItemsNoted_follows` and `readEntriesNoted_follows`;
* `Marshaller.pop_bounded`: **the bounds of one conversion**.
-/

namespace ScriptHost

open Stack Stacked Crossing Logged

variable {M : Machine} {δ α : Type} {handler : Handler M BoundFunction (HostState δ)} {limit : Nat}

namespace Marshaller

variable {m : Marshaller}

/-! ## Readings -/

/-- One more reading is in progress than these. -/
def Inside (readings : List Reading) (b : Account) : Prop :=
  ∃ reading, b.readings = reading :: readings

/-- A reading of a value that waits to be read is accounted for, with room for so many more readings
at once: afterwards the same ones are in progress as before, and what the reading says to be left of
the budget is left. -/
def Pays (handler : Handler M BoundFunction (HostState δ)) (limit room : Nat)
    (reader : NotedReader M δ) : Prop :=
  ∀ (slot budget : Nat) (readings : List Reading), readings.length + room ≤ limit →
    (reader slot budget).follows handler (Account.Step limit)
      (fun r b => b.readings = readings ∧ b.budget = r.2) (fun b => b.readings = readings)
      ⟨budget, true, readings⟩

theorem follows_reading {x : Noted M δ (HostValue × Nat)} {slot budget : Nat}
    {readings : List Reading} (hroom : readings.length < limit)
    (hx : x.follows handler (Account.Step limit) (fun r b => Inside readings b ∧ b.budget = r.2)
      (Inside readings) ⟨budget, false, ⟨slot, .entered⟩ :: readings⟩) :
    (x.within (.enter slot) .leave).follows handler (Account.Step limit)
      (fun r b => b.readings = readings ∧ b.budget = r.2) (fun b => b.readings = readings)
      ⟨budget, true, readings⟩ := by
  refine follows_within (.enter hroom) (follows_mono hx ?_ ?_)
  · rintro r ⟨left, waiting, current⟩ ⟨⟨reading, rfl⟩, hleft⟩
    exact ⟨⟨left, waiting, readings⟩, .leave, rfl, hleft⟩
  · rintro ⟨left, waiting, current⟩ ⟨reading, rfl⟩
    exact ⟨⟨left, waiting, readings⟩, .leave, rfl⟩

/-- A value that was fetched is read, and nothing is written before the answer is looked at. -/
theorem follows_item {reader : NotedReader M δ} {room : Nat}
    (hreader : Pays handler limit room reader)
    {slot budget : Nat} {readings : List Reading} (hroom : readings.length + room ≤ limit)
    {f : Except Error (HostValue × Nat) → Noted M δ α} {ok : α → Account → Prop}
    {error : Account → Prop}
    (hok : ∀ r waiting, (f (.ok r)).follows handler (Account.Step limit) ok error
      ⟨r.2, waiting, readings⟩)
    (herror : ∀ e b, b.readings = readings →
      (f (.error e)).follows handler (Account.Step limit) ok error b) :
    ((reader slot budget).attempt >>= f).follows handler (Account.Step limit) ok error
      ⟨budget, true, readings⟩ := by
  have hattempt : ((reader slot budget).attempt : Noted M δ _).follows handler (Account.Step limit)
      (fun item b => b.readings = readings ∧ ∀ r, item = .ok r → b.budget = r.2) error
      ⟨budget, true, readings⟩ := by
    refine follows_attempt (follows_mono (hreader slot budget readings hroom) ?_ ?_)
    · rintro r b ⟨hreadings, hbudget⟩
      refine ⟨hreadings, ?_⟩
      rintro _ ⟨rfl⟩
      exact hbudget
    · exact fun b hreadings e => ⟨hreadings, nofun⟩
  refine follows_bind hattempt ?_
  rintro item ⟨left, waiting, current⟩ ⟨rfl, hbudget⟩
  cases item with
  | error e => exact herror e _ rfl
  | ok r =>
    obtain rfl : left = r.2 := hbudget r rfl
    exact hok r waiting

/-! ## Containers -/

/-- The elements of an array are fetched against what was charged for it. -/
theorem readItemsNoted_follows {reader : NotedReader M δ} {room : Nat}
    (hreader : Pays handler limit room reader) {array : Nat} {readings : List Reading}
    (hroom : readings.length + 1 + room ≤ limit) (count next budget : Nat) (waiting : Bool)
    (done : List HostValue) :
    (readItemsNoted reader array count next budget done).follows handler (Account.Step limit)
      (fun r b => Inside readings b ∧ b.budget = r.2) (Inside readings)
      ⟨budget, waiting, ⟨array, .charged count⟩ :: readings⟩ := by
  induction count generalizing next budget waiting done with
  | zero => exact follows_pure ⟨⟨_, rfl⟩, rfl⟩
  | succ count ih =>
    refine follows_quietly_bind ⟨_, rfl⟩ fun _ base _ _ => ?_
    refine follows_note_bind .fetch (follows_quietly_bind ⟨_, rfl⟩ fun _ _ _ _ => ?_)
    refine follows_item hreader ?_ (fun r waiting => ?_) fun e b hb => ?_
    · exact hroom
    · refine follows_quietly_bind ⟨_, rfl⟩ fun _ _ _ _ => ?_
      refine follows_quietly_bind ⟨_, rfl⟩ fun _ read _ hread => ?_
      cases hread
      exact ih _ _ _ _
    · refine follows_quietly_bind ⟨_, hb⟩ fun _ _ _ _ => ?_
      exact follows_quietly_bind ⟨_, hb⟩ fun _ _ _ hread => by cases hread

/-- The members of an object are fetched against what was charged for it; what is omitted has been
charged as well. -/
theorem readEntriesNoted_follows {reader : NotedReader M δ} {room : Nat}
    (hreader : Pays handler limit room reader) {object : Nat} {readings : List Reading}
    (hroom : readings.length + 1 + room ≤ limit) (keys : List (List UInt8)) (budget : Nat)
    (waiting : Bool) (done : List (HostValue × HostValue)) :
    (readEntriesNoted reader object keys budget done).follows handler (Account.Step limit)
      (fun r b => Inside readings b ∧ b.budget = r.2) (Inside readings)
      ⟨budget, waiting, ⟨object, .charged keys.length⟩ :: readings⟩ := by
  induction keys generalizing budget waiting done with
  | nil => exact follows_pure ⟨⟨_, rfl⟩, rfl⟩
  | cons key rest ih =>
    refine follows_quietly_bind ⟨_, rfl⟩ fun _ base _ _ => ?_
    refine follows_note_bind .fetch (follows_quietly_bind ⟨_, rfl⟩ fun _ _ _ _ => ?_)
    refine follows_quietly_bind ⟨_, rfl⟩ fun _ kind _ _ => ?_
    split
    -- A function is passed over: it was paid for, and that nobody reads it does not matter.
    · exact follows_quietly_bind ⟨_, rfl⟩ fun _ _ _ _ => ih _ _ _
    · refine follows_item hreader ?_ (fun r waiting => ?_) fun e b hb => ?_
      · exact hroom
      · refine follows_quietly_bind ⟨_, rfl⟩ fun _ _ _ _ => ?_
        refine follows_quietly_bind ⟨_, rfl⟩ fun _ name _ _ => ?_
        refine follows_quietly_bind ⟨_, rfl⟩ fun _ read _ hread => ?_
        cases hread
        exact ih _ _ _
      · refine follows_quietly_bind ⟨_, hb⟩ fun _ _ _ _ => ?_
        refine follows_quietly_bind ⟨_, hb⟩ fun _ name _ _ => ?_
        exact follows_quietly_bind ⟨_, hb⟩ fun _ _ _ hread => by cases hread

/-- **Every reading is accounted for**, whatever is in its slot. -/
theorem pays_readNoted (levels : Nat) :
    Pays handler limit (levels + 1) (m.readNoted levels : NotedReader M δ) := by
  -- One place goes to the reading itself, which leaves its contents room for one level less.
  induction levels with
  | zero =>
    intro slot budget readings hroom
    exact follows_reading (by omega) (follows_fails (fails_fail _) ⟨_, rfl⟩)
  | succ levels ih =>
    intro slot budget readings hroom
    refine follows_reading (by omega) (follows_quietly_bind ⟨_, rfl⟩ fun _ kind _ _ => ?_)
    split
    · exact follows_fails (fails_mapError _ (fails_poison _)) ⟨_, rfl⟩
    · exact follows_pure ⟨⟨_, rfl⟩, rfl⟩
    · exact follows_pure ⟨⟨_, rfl⟩, rfl⟩
    · exact follows_quietly_bind ⟨_, rfl⟩ fun _ _ _ _ => follows_pure ⟨⟨_, rfl⟩, rfl⟩
    · exact follows_quietly_bind ⟨_, rfl⟩ fun _ _ _ _ => follows_pure ⟨⟨_, rfl⟩, rfl⟩
    · exact follows_quietly_bind ⟨_, rfl⟩ fun _ _ _ _ =>
          follows_quietly_bind ⟨_, rfl⟩ fun _ _ _ _ =>
        follows_pure ⟨⟨_, rfl⟩, rfl⟩
    · refine follows_quietly_bind ⟨_, rfl⟩ fun _ length _ _ => follows_note_bind .length ?_
      refine follows_quietly_bind ⟨_, rfl⟩ fun _ left _ hcharge => ?_
      obtain rfl := eq_add_of_charge hcharge
      refine follows_note_bind .charge ?_
      exact follows_bind (readItemsNoted_follows ih
        (by omega) _ _ _ _ _) fun r b hb => follows_pure hb
    · refine follows_quietly_bind ⟨_, rfl⟩ fun _ keys _ _ => follows_note_bind .keys ?_
      refine follows_quietly_bind ⟨_, rfl⟩ fun _ left _ hcharge => ?_
      obtain rfl := eq_add_of_charge hcharge
      refine follows_note_bind .charge ?_
      exact follows_bind (readEntriesNoted_follows ih
        (by omega) _ _ _ _) fun r b hb => follows_pure hb
    · exact follows_note_bind .replace (follows_quietly_bind ⟨_, rfl⟩ fun _ _ _ _ =>
        follows_pure ⟨⟨_, rfl⟩, rfl⟩)
    · exact follows_note_bind .replace (follows_quietly_bind ⟨_, rfl⟩ fun _ _ _ _ =>
        follows_pure ⟨⟨_, rfl⟩, rfl⟩)

/-! ## The whole conversion -/

/-- The notes of a conversion can be accounted for. -/
theorem exists_account (m : Marshaller) (handler : Handler M BoundFunction (HostState δ))
    (s : Session M BoundFunction (HostState δ)) :
    ∃ b, Runs (Account.Step (m.maxDepth + 2)) (.start m.maxElements) (m.popNotes handler s) b := by
  have hpop : (m.popNoted : Noted M δ HostValue).follows handler (Account.Step (m.maxDepth + 2))
      (fun _ _ => True) (fun _ => True) (.start m.maxElements) := by
    refine follows_quietly_bind trivial fun _ n _ _ => ?_
    cases n with
    | zero => exact follows_fails (fails_mapError _ (fails_poison _)) trivial
    | succ top =>
      have hend (value : Except Error (HostValue × Nat)) (b : Account) :
          (quietly (setDepth top) >>= fun _ => quietly (Crossing.ofExcept value) >>= fun r =>
            pure r.1 : Noted M δ HostValue).follows handler (Account.Step (m.maxDepth + 2))
            (fun _ _ => True) (fun _ => True) b :=
        follows_quietly_bind trivial fun _ _ _ _ => follows_quietly_bind trivial fun _ _ _ _ =>
          follows_pure trivial
      exact follows_item (pays_readNoted _)
        (by simp) (fun r waiting => hend _ _) fun e b _ => hend _ b
  obtain ⟨b, hruns, -⟩ := hpop s
  exact ⟨b, hruns⟩

/-- **A conversion does bounded work**, whatever script does in the course of it.  Its notes can be
accounted for: nothing is fetched from a container before the whole of it has been charged to the
one budget.  So there are at most `maxElements` fetches, one reading more than that, and `maxDepth +
2` readings in progress at once.  If each run of the machine comes to an end,
so does the conversion. -/
theorem pop_bounded (m : Marshaller) (handler : Handler M BoundFunction (HostState δ))
    (s : Session M BoundFunction (HostState δ)) :
    (m.popNoted : Noted M δ HostValue) handler s = (m.popNotes handler s, m.pop handler s) ∧
    (∃ b, Runs (Account.Step (m.maxDepth + 2)) (.start m.maxElements) (m.popNotes handler s) b) ∧
    (m.popNotes handler s).countP ReadNote.isFetch ≤ m.maxElements ∧
    (m.popNotes handler s).countP ReadNote.isEnter ≤ m.maxElements + 1 ∧
    (∀ before, before <+: m.popNotes handler s →
      before.countP ReadNote.isEnter ≤ before.countP ReadNote.isLeave + (m.maxDepth + 2)) ∧
    (M.Returns handler → (m.pop : Crossing M δ Error HostValue) handler s ≠ .exhausted) := by
  obtain ⟨b, hruns⟩ := m.exists_account handler s
  refine ⟨?_, ⟨b, hruns⟩, Account.fetches_le hruns, Account.readings_le hruns,
    fun before hbefore => Account.nesting_le hruns hbefore, fun hr => m.assembled_pop.halts hr s⟩
  rw [← erased_popNoted]
  rfl

/-- The silent machine answers at once. -/
theorem returns_silent (handler : Handler Machine.silent BoundFunction (HostState δ)) :
    Machine.silent.Returns handler := by
  have hlook {α : Type} (f : DataObject → Option α) (ref : Ref)
      (w : World Machine.silent BoundFunction (HostState δ)) :
      (Machine.look f ref w.machine).drive handler w ≠ .exhausted := by
    unfold Machine.look
    split <;> exact nofun
  have hedit (f : DataObject → Option DataObject) (ref : Ref)
      (w : World Machine.silent BoundFunction (HostState δ)) :
      (Machine.edit f ref w.machine).drive handler w ≠ .exhausted := by
    unfold Machine.edit
    split <;> exact nofun
  intro α f hf w
  cases hf with
  | append | define | defineHidden | setGlobal => exact hedit _ _ w
  | length | element | keys | isEnumerable | hasOwn | has | get => exact hlook _ _ w
  | toObject v => cases v <;> exact nofun
  | toText | run | call => exact nofun

/-- An array that holds itself twice is left at the first value that nests too deep; at that time as
many readings are in progress as there may be. -/
theorem pop_bounded_cyclic :
    let m : Marshaller := ⟨none, 2, 7⟩
    let s : Session Machine.silent BoundFunction (HostState Unit) :=
      ⟨⟨[.plain [], .array [some (.object 1), some (.object 1)]], #[], ⟨.fresh, ()⟩⟩,
        #[.object 1], none⟩
    let handler : Handler Machine.silent BoundFunction (HostState Unit) := fun _ _ _ _ => .exhausted
    let first := [.enter 0, .length 2, .charge 2, .fetch 0, .enter 1, .length 2, .charge 2,
      .fetch 1, .enter 2, .length 2, .charge 2, .fetch 2, .enter 3]
    m.popNotes handler s = first ++ [.leave, .leave, .leave, .leave] ∧
    first.countP ReadNote.isEnter ≤ first.countP ReadNote.isLeave + (m.maxDepth + 2) ∧
    m.pop handler s ≠ .exhausted := by
  intro m s handler first
  have hnotes : m.popNotes handler s = first ++ [.leave, .leave, .leave, .leave] := by
    unfold popNotes
    decide
  obtain ⟨-, -, -, -, hnesting, hends⟩ := pop_bounded m handler s
  exact ⟨hnotes, hnesting first ⟨_, hnotes.symm⟩, hends (returns_silent handler)⟩

end Marshaller

end ScriptHost
