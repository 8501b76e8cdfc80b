import ScriptHost.Context.Operation
import ScriptHost.Proofs.Crossing.LookUp

/-!
# Following a path

A path is followed by looking up one key after the other, each on the value that the last one gave.
It ends where the keys do, or at the first look-up that fails, or at a missing value with keys left
over.  `Follows` and `Resolves` say so step by step and know nothing of the stack; the program does
the same and leaves what it has found there.

* `PathEnd`: where a path ends; `Follows`, `Resolves`: from a value, and from the global object;
* `resolves_append`: **the fold**, `Resolves.append_reached` and `Resolves.append_stopped` for what
  keys at the end of a path add;
* `resolve_of_resolves`, `exists_resolves_of_ends`: **the program follows the
  path**, and does nothing else.
-/

namespace ScriptHost

open Stack Stacked Crossing

/-- Where following a path has ended. -/
inductive PathEnd
  /-- The global object has no property under the first key. -/
  | noRoot (key : String)
  /-- There is another key, and the value is one of the two missing ones. -/
  | noBase
  /-- A look-up has failed with the error. -/
  | threw (e : Error)
  /-- All keys have been looked up: the last value, and the one before it. -/
  | reached (holder value : ScriptValue)

namespace PathEnd

/-- The error that stands for the end, unless the value was reached. -/
def error? : PathEnd → Option Error
  | noRoot key => some (.reference s!"identifier '{key}' undefined")
  | noBase => some (.typeError "invalid base value")
  | threw e => some e
  | reached _ _ => none

variable {M : Machine} {δ : Type}

/-- How the program that follows a path leaves the stack over `base`. -/
inductive Leaves (base : Array ScriptValue) (w : World M BoundFunction (HostState δ)) :
    PathEnd → Outcome M BoundFunction (HostState δ) Error Unit → Prop
  | reached (more : Array ScriptValue) (holder value : ScriptValue) :
      Leaves base w (.reached holder value)
        (.ok () ⟨w, ((base ++ more).push holder).push value, none⟩)
  | stopped {stop : PathEnd} {e : Error} (more : Array ScriptValue) (he : stop.error? = some e) :
      Leaves base w stop (.error e ⟨w, base ++ more, none⟩)

theorem Leaves.of_push {base : Array ScriptValue} {v : ScriptValue}
    {w : World M BoundFunction (HostState δ)} {stop : PathEnd}
    {o : Outcome M BoundFunction (HostState δ) Error Unit} (h : Leaves (base.push v) w stop o) :
    Leaves base w stop o := by
  have happend (more : Array ScriptValue) : base.push v ++ more = base ++ (#[v] ++ more) := by
    rw [Array.push_eq_append, Array.append_assoc]
  cases h with
  | reached more holder value =>
    rw [happend]
    exact .reached _ holder value
  | stopped more he =>
    rw [happend]
    exact .stopped _ he

end PathEnd

namespace Context

variable {M : Machine} {δ α : Type}

/-! ## The fold -/

section

variable (handler : Handler M BoundFunction (HostState δ))

/-- The keys are looked up one after the other, each on the value that the last one gave. -/
inductive Follows : (holder value : ScriptValue) → List String →
    World M BoundFunction (HostState δ) → PathEnd → World M BoundFunction (HostState δ) → Prop
  | done {holder value : ScriptValue} {w : World M BoundFunction (HostState δ)} :
      Follows holder value [] w (.reached holder value) w
  | noBase {holder value : ScriptValue} {key : String} {rest : List String}
      {w : World M BoundFunction (HostState δ)} (hvalue : value = .undefined ∨ value = .null) :
      Follows holder value (key :: rest) w .noBase w
  | threw {holder value : ScriptValue} {key : String} {rest : List String} {e : Error}
      {w w' : World M BoundFunction (HostState δ)} (hvalue : ¬ (value = .undefined ∨ value = .null))
      (h : Found handler value (Text.units key) w (.error e) w') :
      Follows holder value (key :: rest) w (.threw e) w'
  | next {holder value u : ScriptValue} {key : String} {rest : List String} {found : Bool}
      {stop : PathEnd} {w w₁ w' : World M BoundFunction (HostState δ)}
      (hvalue : ¬ (value = .undefined ∨ value = .null))
      (h : Found handler value (Text.units key) w (.ok (found, u)) w₁)
      (hrest : Follows value u rest w₁ stop w') : Follows holder value (key :: rest) w stop w'

/-- The first key is looked up on the global object, which has to have it,
and the others from there. -/
inductive Resolves (key : String) (rest : List String) (w : World M BoundFunction (HostState δ)) :
    PathEnd → World M BoundFunction (HostState δ) → Prop
  | noRoot {u : ScriptValue} {w' : World M BoundFunction (HostState δ)}
      (h : Found handler (.object (M.global w.machine)) (Text.units key) w (.ok (false, u)) w') :
      Resolves key rest w (.noRoot key) w'
  | threw {e : Error} {w' : World M BoundFunction (HostState δ)}
      (h : Found handler (.object (M.global w.machine)) (Text.units key) w (.error e) w') :
      Resolves key rest w (.threw e) w'
  | bound {u : ScriptValue} {stop : PathEnd} {w₁ w' : World M BoundFunction (HostState δ)}
      (h : Found handler (.object (M.global w.machine)) (Text.units key) w (.ok (true, u)) w₁)
      (hrest : Follows handler (.object (M.global w.machine)) u rest w₁ stop w') :
      Resolves key rest w stop w'

end

variable {handler : Handler M BoundFunction (HostState δ)} {holder value : ScriptValue}
  {key : String} {keys rest : List String} {stop stop' : PathEnd}
  {w w' w'' : World M BoundFunction (HostState δ)}
  {s : Session M BoundFunction (HostState δ)}

/-- There is only one end. -/
theorem Follows.unique (h : Follows handler holder value keys w stop w')
    (h' : Follows handler holder value keys w stop' w'') : stop = stop' ∧ w' = w'' := by
  induction h generalizing stop' w'' with
  | done =>
    cases h'
    exact ⟨rfl, rfl⟩
  | noBase hvalue =>
    cases h' with
    | noBase => exact ⟨rfl, rfl⟩
    | threw hvalue' => exact absurd hvalue hvalue'
    | next hvalue' => exact absurd hvalue hvalue'
  | threw hvalue h =>
    cases h' with
    | noBase hvalue' => exact absurd hvalue' hvalue
    | threw _ h' =>
      obtain ⟨hresult, rfl⟩ := found_unique h h'
      cases hresult
      exact ⟨rfl, rfl⟩
    | next _ h' =>
      obtain ⟨hresult, -⟩ := found_unique h h'
      cases hresult
  | next hvalue h _ ih =>
    cases h' with
    | noBase hvalue' => exact absurd hvalue' hvalue
    | threw _ h' =>
      obtain ⟨hresult, -⟩ := found_unique h h'
      cases hresult
    | next _ h' hrest' =>
      obtain ⟨hresult, rfl⟩ := found_unique h h'
      cases hresult
      exact ih hrest'

theorem Follows.ne_noRoot (h : Follows handler holder value keys w stop w') (k : String) :
    stop ≠ .noRoot k := by
  induction h with
  | done => exact nofun
  | noBase => exact nofun
  | threw => exact nofun
  | next _ _ _ ih => exact ih

/-- To follow more keys is to follow the first ones and go on from where they lead.  If they lead to
no value, the others make no difference. -/
theorem follows_append {more : List String} :
    Follows handler holder value (keys ++ more) w stop w' ↔
      (∃ holder' value' w₁, Follows handler holder value keys w (.reached holder' value') w₁ ∧
        Follows handler holder' value' more w₁ stop w') ∨
      (stop.error?.isSome ∧ Follows handler holder value keys w stop w') := by
  constructor
  · intro h
    induction keys generalizing holder value w with
    | nil => exact .inl ⟨holder, value, w, .done, h⟩
    | cons key keys ih =>
      cases h with
      | noBase hvalue => exact .inr ⟨rfl, .noBase hvalue⟩
      | threw hvalue h => exact .inr ⟨rfl, .threw hvalue h⟩
      | next hvalue h hrest =>
        rcases ih hrest with ⟨holder', value', w₁, hkeys, hmore⟩ | ⟨hstop, hkeys⟩
        · exact .inl ⟨holder', value', w₁, .next hvalue h hkeys, hmore⟩
        · exact .inr ⟨hstop, .next hvalue h hkeys⟩
  · rintro (⟨holder', value', w₁, hkeys, hmore⟩ | ⟨hstop, hkeys⟩)
    · generalize hreached : PathEnd.reached holder' value' = stop' at hkeys
      induction hkeys with
      | done =>
        cases hreached
        exact hmore
      | noBase => cases hreached
      | threw => cases hreached
      | next hvalue h _ ih => exact .next hvalue h (ih hmore hreached)
    · induction hkeys with
      | done => cases hstop
      | noBase hvalue => exact .noBase hvalue
      | threw hvalue h => exact .threw hvalue h
      | next hvalue h _ ih => exact .next hvalue h (ih hstop)

theorem Resolves.unique (h : Resolves handler key keys w stop w')
    (h' : Resolves handler key keys w stop' w'') : stop = stop' ∧ w' = w'' := by
  cases h with
  | noRoot h =>
    cases h' with
    | noRoot h' => exact ⟨rfl, (found_unique h h').2⟩
    | threw h' => cases (found_unique h h').1
    | bound h' => cases (found_unique h h').1
  | threw h =>
    cases h' with
    | noRoot h' => cases (found_unique h h').1
    | threw h' =>
      obtain ⟨hresult, rfl⟩ := found_unique h h'
      cases hresult
      exact ⟨rfl, rfl⟩
    | bound h' => cases (found_unique h h').1
  | bound h hrest =>
    cases h' with
    | noRoot h' => cases (found_unique h h').1
    | threw h' => cases (found_unique h h').1
    | bound h' hrest' =>
      obtain ⟨hresult, rfl⟩ := found_unique h h'
      cases hresult
      exact hrest.unique hrest'

theorem resolves_append {more : List String} :
    Resolves handler key (keys ++ more) w stop w' ↔
      (∃ holder value w₁, Resolves handler key keys w (.reached holder value) w₁ ∧
        Follows handler holder value more w₁ stop w') ∨
      (stop.error?.isSome ∧ Resolves handler key keys w stop w') := by
  constructor
  · intro h
    cases h with
    | noRoot h => exact .inr ⟨rfl, .noRoot h⟩
    | threw h => exact .inr ⟨rfl, .threw h⟩
    | bound h hrest =>
      rcases follows_append.mp hrest with ⟨holder, value, w₁, hkeys, hmore⟩ | ⟨hstop, hkeys⟩
      · exact .inl ⟨holder, value, w₁, .bound h hkeys, hmore⟩
      · exact .inr ⟨hstop, .bound h hkeys⟩
  · rintro (⟨holder, value, w₁, hkeys, hmore⟩ | ⟨hstop, hkeys⟩)
    · cases hkeys with
      | bound h hkeys =>
        exact .bound h (follows_append.mpr (.inl ⟨holder, value, w₁, hkeys, hmore⟩))
    · cases hkeys with
      | noRoot h => exact .noRoot h
      | threw h => exact .threw h
      | bound h hkeys => exact .bound h (follows_append.mpr (.inr ⟨hstop, hkeys⟩))

/-- From a value that was reached, further keys lead on. -/
theorem Resolves.append_reached (h : Resolves handler key keys w (.reached holder value) w')
    (more : List String) : Resolves handler key (keys ++ more) w stop w'' ↔
      Follows handler holder value more w' stop w'' := by
  rw [resolves_append]
  constructor
  · rintro (⟨holder', value', w₁, hkeys, hmore⟩ | ⟨hstop, hkeys⟩)
    · obtain ⟨hend, rfl⟩ := h.unique hkeys
      cases hend
      exact hmore
    · obtain ⟨rfl, -⟩ := h.unique hkeys
      cases hstop
  · exact fun hmore => .inl ⟨holder, value, w', h, hmore⟩

/-- Where the path has ended without a value, further keys are never looked up. -/
theorem Resolves.append_stopped (h : Resolves handler key keys w stop w')
    (hstop : stop.error?.isSome) (more : List String) :
    Resolves handler key (keys ++ more) w stop' w'' ↔ stop' = stop ∧ w'' = w' := by
  rw [resolves_append]
  constructor
  · rintro (⟨holder', value', w₁, hkeys, -⟩ | ⟨-, hkeys⟩)
    · obtain ⟨rfl, -⟩ := h.unique hkeys
      cases hstop
    · obtain ⟨rfl, rfl⟩ := h.unique hkeys
      exact ⟨rfl, rfl⟩
  · rintro ⟨rfl, rfl⟩
    exact .inr ⟨hstop, h⟩

/-! ## The program follows the path -/

theorem depth_top (b : Array ScriptValue) : (depth : Crossing M δ Error Nat) handler
    ⟨w, b.push value, none⟩ = .ok (b.size + 1) ⟨w, b.push value, none⟩ := by
  simp [depth, Stacked.read]

theorem slotType_top (b : Array ScriptValue) : (slotType b.size : Crossing M δ Error SlotType)
    handler ⟨w, b.push value, none⟩ =
      .ok (SlotType.ofValue (M.shape w.machine) value) ⟨w, b.push value, none⟩ := by
  simp [slotType, Stacked.read]

theorem getProp_top_ok {u : ScriptValue} {found : Bool} (b : Array ScriptValue)
    (h : Found handler value (Text.units key) w (.ok (found, u)) w') :
    (check (getProp b.size (Text.utf8 key)) : Crossing M δ Error Bool) handler
      ⟨w, b.push value, none⟩ = .ok found ⟨w', (b.push value).push u, none⟩ :=
  check_getProp_of_found (s := ⟨w, b.push value, none⟩) rfl (Text.decodeUnits_utf8 key)
    Array.getElem?_push_size h

theorem getProp_top_error {e : Error} (b : Array ScriptValue)
    (h : Found handler value (Text.units key) w (.error e) w') :
    (check (getProp b.size (Text.utf8 key)) : Crossing M δ Error Bool) handler
      ⟨w, b.push value, none⟩ = .error e ⟨w', b.push value, none⟩ :=
  check_getProp_of_found (s := ⟨w, b.push value, none⟩) rfl (Text.decodeUnits_utf8 key)
    Array.getElem?_push_size h

theorem exists_found_top {ok : Bool → Session M BoundFunction (HostState δ) → Prop}
    {error : Error → Session M BoundFunction (HostState δ) → Prop} {b : Array ScriptValue}
    (h : (check (getProp b.size (Text.utf8 key)) : Crossing M δ Error Bool).ends handler ok error
      ⟨w, b.push value, none⟩) :
    (∃ e w', Found handler value (Text.units key) w (.error e) w') ∨
      ∃ found u w', Found handler value (Text.units key) w (.ok (found, u)) w' ∧
        ok found ⟨w', (b.push value).push u, none⟩ := by
  obtain ⟨result, w', hfound⟩ :=
    exists_found_of_ends (Text.decodeUnits_utf8 key) Array.getElem?_push_size h
  cases result with
  | error e => exact .inl ⟨e, w', hfound⟩
  | ok answer => exact .inr ⟨_, _, w', hfound, of_ends_of_eq_ok h (getProp_top_ok b hfound)⟩

/-- One step: on a missing value nothing is looked up, and on any other one the key is. -/
theorem resolveFrom_cons (b : Array ScriptValue) :
    resolveFrom (key :: rest) handler ⟨w, b.push value, none⟩ =
      if value = .undefined ∨ value = .null then
        .error (.typeError "invalid base value") ⟨w, b.push value, none⟩
      else (check (getProp b.size (Text.utf8 key)) >>= fun _ => resolveFrom rest) handler
        ⟨w, b.push value, none⟩ := by
  conv => lhs; unfold resolveFrom
  rw [bind_eq_of_ok (depth_top b)]
  simp only [Nat.add_sub_cancel]
  rw [bind_eq_of_ok (slotType_top b)]
  simp only [isNullish_ofValue]
  split
  · rfl
  · rfl

theorem resolveFrom_of_follows (h : Follows handler holder value keys w stop w')
    (a : Array ScriptValue) :
    stop.Leaves a w' (resolveFrom keys handler ⟨w, (a.push holder).push value, none⟩) := by
  induction h generalizing a with
  | done => exact .reached #[] _ _
  | noBase hvalue =>
    rw [resolveFrom_cons, if_pos hvalue]
    exact .stopped #[_, _] rfl
  | threw hvalue h =>
    rw [resolveFrom_cons, if_neg hvalue, bind_eq_of_error (getProp_top_error _ h)]
    exact .stopped #[_, _] rfl
  | @next holder _ _ _ _ _ _ _ _ _ hvalue h _ ih =>
    rw [resolveFrom_cons, if_neg hvalue, bind_eq_of_ok (getProp_top_ok _ h)]
    exact (ih (a.push holder)).of_push

theorem exists_follows_of_ends {ok : Unit → Session M BoundFunction (HostState δ) → Prop}
    {error : Error → Session M BoundFunction (HostState δ) → Prop} {a : Array ScriptValue}
    (h : (resolveFrom keys).ends handler ok error ⟨w, (a.push holder).push value, none⟩) :
    ∃ stop w', Follows handler holder value keys w stop w' := by
  induction keys generalizing a holder value w with
  | nil => exact ⟨_, _, .done⟩
  | cons key keys ih =>
    by_cases hvalue : value = .undefined ∨ value = .null
    · exact ⟨_, _, .noBase hvalue⟩
    · rw [ends, resolveFrom_cons, if_neg hvalue, ← ends, ends_bind] at h
      rcases exists_found_top h with ⟨e, w₁, hfound⟩ | ⟨found, u, w₁, hfound, hrest⟩
      · exact ⟨_, _, .threw hvalue hfound⟩
      · obtain ⟨stop, w', hfollows⟩ := ih hrest
        exact ⟨stop, w', .next hvalue hfound hfollows⟩

/-- The first key is looked up on the global object, which is left under what comes of it. -/
theorem resolve_cons (hp : s.poison = none) : resolve ⟨key :: rest⟩ handler s =
    (check (getProp s.slots.size (Text.utf8 key)) >>= fun found =>
      if found then resolveFrom rest
      else .fail (.reference s!"identifier '{key}' undefined") : Crossing M δ Error Unit) handler
        ⟨s.world, s.slots.push (.object (M.global s.world.machine)), none⟩ := by
  have hpush : (pushGlobal : Crossing M δ Error Unit) handler s =
      .ok () ⟨s.world, s.slots.push (.object (M.global s.world.machine)), none⟩ := by
    rw [← hp]
    rfl
  unfold resolve
  refine (bind_eq_of_ok hpush).trans ?_
  simp only [depth, Stacked.read, bind_apply, Array.size_push, Nat.add_sub_cancel]
  split
  · next found t _ =>
    cases found with
    | true => rfl
    | false => rfl
  · rfl
  · rfl
  · rfl

theorem resolve_of_resolves (hp : s.poison = none) (h : Resolves handler key keys s.world stop w') :
    stop.Leaves s.slots w' (resolve ⟨key :: keys⟩ handler s) := by
  rw [resolve_cons hp]
  cases h with
  | noRoot h =>
    rw [bind_eq_of_ok (getProp_top_ok _ h)]
    exact .stopped #[_, _] rfl
  | threw h =>
    rw [bind_eq_of_error (getProp_top_error _ h)]
    exact .stopped #[_] rfl
  | bound h hrest =>
    rw [bind_eq_of_ok (getProp_top_ok _ h)]
    exact resolveFrom_of_follows hrest s.slots

theorem exists_resolves_of_ends {ok : Unit → Session M BoundFunction (HostState δ) → Prop}
    {error : Error → Session M BoundFunction (HostState δ) → Prop} (hp : s.poison = none)
    (h : (resolve ⟨key :: keys⟩).ends handler ok error s) :
    ∃ stop w', Resolves handler key keys s.world stop w' := by
  rw [ends, resolve_cons hp, ← ends, ends_bind] at h
  rcases exists_found_top h with ⟨e, w₁, hfound⟩ | ⟨found, u, w₁, hfound, hrest⟩
  · exact ⟨_, _, .threw hfound⟩
  · cases found with
    | false => exact ⟨_, _, .noRoot hfound⟩
    | true =>
      obtain ⟨stop, w', hfollows⟩ := exists_follows_of_ends hrest
      exact ⟨stop, w', .bound hfound hfollows⟩

end Context

end ScriptHost
