import ScriptHost.Proofs.Crossing.Classified
import ScriptHost.Proofs.Crossing.Thrown

/-!
# Looking up a property from the host

A look-up turns the value into an object, asks that whether it has the property, and gets what is
under the name.  Each of the three may run script and may throw, and what is thrown becomes an
error.  The relations below say what comes of a look-up, as steps from one world to the next; the
program on the stack does the same (`check_getProp_of_found`), and does nothing else
(`exists_found_of_ends`).

* `ThrownAs`: the value that a failure is thrown as, with its trace recorded;
* `LooksUp`: the three questions to the machine, and `Found`: with the error for what was thrown.
-/

namespace ScriptHost

open Stack Stacked Crossing

variable {M : Machine} {κ ω δ ε α : Type}

namespace Stack

section

variable (handler : Handler M κ ω)

/-- The failure is thrown as this value.  On an error object its trace is recorded. -/
inductive ThrownAs (failure : Failure) (w : World M κ ω) : ScriptValue → World M κ ω → Prop
  | plain (h : ∀ ref, (thrownIn failure w).1 = .object ref →
      M.isError (thrownIn failure w).2.machine ref = false) :
    ThrownAs failure w (thrownIn failure w).1 (thrownIn failure w).2
  | traced {ref : Ref} {w' : World M κ ω} (hobject : (thrownIn failure w).1 = .object ref)
    (herror : M.isError (thrownIn failure w).2.machine ref = true)
    (htraced : Traced handler failure ref (thrownIn failure w).2 w') :
    ThrownAs failure w (.object ref) w'

/-- What the machine answers to a look-up: whether the object of the value has the property, and
what is under the name; or the failure of the first of the three questions that is not answered. -/
inductive LooksUp (v : ScriptValue) (name : Units) :
    World M κ ω → Except Failure (Bool × ScriptValue) → World M κ ω → Prop
  | found {w w₁ w₂ w₃ : World M κ ω} {ref : Ref} {found : Bool} {u : ScriptValue}
    (hobject : (M.toObject v w.machine).drive handler w = .ended (.ok ref) w₁)
    (hhas : (M.has ref name w₁.machine).drive handler w₁ = .ended (.ok found) w₂)
    (hget : (M.get ref name w₂.machine).drive handler w₂ = .ended (.ok u) w₃) :
    LooksUp v name w (.ok (found, u)) w₃
  | noObject {w w₁ : World M κ ω} {failure : Failure}
    (hobject : (M.toObject v w.machine).drive handler w = .ended (.error failure) w₁) :
    LooksUp v name w (.error failure) w₁
  | noAnswer {w w₁ w₂ : World M κ ω} {ref : Ref} {failure : Failure}
    (hobject : (M.toObject v w.machine).drive handler w = .ended (.ok ref) w₁)
    (hhas : (M.has ref name w₁.machine).drive handler w₁ = .ended (.error failure) w₂) :
    LooksUp v name w (.error failure) w₂
  | noValue {w w₁ w₂ w₃ : World M κ ω} {ref : Ref} {found : Bool} {failure : Failure}
    (hobject : (M.toObject v w.machine).drive handler w = .ended (.ok ref) w₁)
    (hhas : (M.has ref name w₁.machine).drive handler w₁ = .ended (.ok found) w₂)
    (hget : (M.get ref name w₂.machine).drive handler w₂ = .ended (.error failure) w₃) :
    LooksUp v name w (.error failure) w₃

/-- What the host gets of a look-up: the answer, or the classified error of what was thrown. -/
inductive Found (v : ScriptValue) (name : Units) (w : World M κ ω) :
    Except Error (Bool × ScriptValue) → World M κ ω → Prop
  | answered {answer : Bool × ScriptValue} {w' : World M κ ω}
    (h : LooksUp handler v name w (.ok answer) w') : Found v name w (.ok answer) w'
  | thrown {failure : Failure} {u : ScriptValue} {w₁ w₂ w' : World M κ ω} {e : Error}
    (h : LooksUp handler v name w (.error failure) w₁) (hthrown : ThrownAs handler failure w₁ u w₂)
    (hclassified : Classified handler u w₂ e w') : Found v name w (.error e) w'

end

variable {handler : Handler M κ ω} {s : Session M κ ω}

/-! ## Failures -/

theorem raise_of_thrownAs {failure : Failure} {v : ScriptValue} {w : World M κ ω}
    (h : ThrownAs handler failure s.world v w) :
    (raise failure : Stacked M κ ω EngineError α) handler s =
      .error .thrown ⟨w, s.slots.push v, s.poison⟩ := by
  rw [raise_eq, bind_eq_of_ok (thrownValue_eq failure)]
  cases h with
  | plain h => exact throwTraced_of_not_isError h
  | traced hobject herror htraced =>
    rw [hobject]
    exact throwTraced_of_traced herror htraced

theorem perform_of_thrownAs {f : M.State → Act M.State α} {failure : Failure} {v : ScriptValue}
    {w w' : World M κ ω}
    (h : (f s.world.machine).drive handler s.world = .ended (.error failure) w)
    (hthrown : ThrownAs handler failure w v w') :
    perform f handler s = .error .thrown ⟨w', s.slots.push v, s.poison⟩ := by
  unfold perform
  rw [bind_eq_of_ok (act_of_ended h)]
  exact raise_of_thrownAs (s := { s with world := w }) hthrown

theorem exists_thrownAs_of_ends {failure : Failure} {ok : α → Session M κ ω → Prop}
    {error : EngineError → Session M κ ω → Prop}
    (h : (raise failure : Stacked M κ ω EngineError α).ends handler ok error s) :
    ∃ v w, ThrownAs handler failure s.world v w := by
  by_cases herror : ∃ ref, (thrownIn failure s.world).1 = .object ref ∧
      M.isError (thrownIn failure s.world).2.machine ref = true
  · obtain ⟨ref, hobject, herror⟩ := herror
    unfold ends at h
    rw [raise_eq, bind_eq_of_ok (thrownValue_eq failure), hobject] at h
    change (throwTraced failure (.object ref) : Stacked M κ ω EngineError α).ends handler ok error
      _ at h
    unfold throwTraced at h
    simp only [ends_bind, ends_read, herror, if_true] at h
    obtain ⟨w, htraced⟩ := exists_traced_of_ends h
    exact ⟨_, w, .traced hobject herror htraced⟩
  · refine ⟨_, _, .plain fun ref hobject => ?_⟩
    exact eq_false_of_ne_true fun h => herror ⟨ref, hobject, h⟩

/-- An operation that ends has answered, or has failed and thrown something. -/
theorem answered_or_thrown {f : M.State → Act M.State α} {ok : α → Session M κ ω → Prop}
    {error : EngineError → Session M κ ω → Prop} (h : (perform f).ends handler ok error s) :
    (∃ a w, (f s.world.machine).drive handler s.world = .ended (.ok a) w ∧
      ok a { s with world := w }) ∨
    ∃ failure v w w', (f s.world.machine).drive handler s.world = .ended (.error failure) w ∧
      ThrownAs handler failure w v w' := by
  unfold perform at h
  rw [ends_bind] at h
  obtain ⟨result, w, hend, hrest⟩ := ended_of_ends_act h
  cases result with
  | ok a => exact .inl ⟨a, w, hend, hrest⟩
  | error failure =>
    obtain ⟨v, w', hthrown⟩ := exists_thrownAs_of_ends hrest
    exact .inr ⟨failure, v, w, w', hend, hthrown⟩

/-! ## The program looks up -/

section

variable {v : ScriptValue} {index : Nat} {key : List UInt8} {name : Units}

theorem getProp_of_looksUp_ok {answer : Bool × ScriptValue} {w : World M κ ω}
    (hkey : Text.decodeUnits key = name) (hv : s.slots[index]? = some v)
    (h : LooksUp handler v name s.world (.ok answer) w) :
    getProp index key handler s = .ok answer.1 ⟨w, s.slots.push answer.2, s.poison⟩ := by
  subst hkey
  unfold getProp
  rw [bind_eq_of_ok (slot_of_getElem? hv)]
  cases h with
  | @found w₁ w₂ _ _ _ _ hobject hhas hget =>
    rw [bind_eq_of_ok (perform_of_ok hobject)]
    rw [bind_eq_of_ok (perform_of_ok (s := { s with world := w₁ }) hhas)]
    rw [bind_eq_of_ok (perform_of_ok (s := { s with world := w₂ }) hget)]
    rfl

theorem getProp_of_looksUp_error {failure : Failure} {u : ScriptValue} {w w' : World M κ ω}
    (hkey : Text.decodeUnits key = name) (hv : s.slots[index]? = some v)
    (h : LooksUp handler v name s.world (.error failure) w)
    (hthrown : ThrownAs handler failure w u w') :
    getProp index key handler s = .error .thrown ⟨w', s.slots.push u, s.poison⟩ := by
  subst hkey
  unfold getProp
  rw [bind_eq_of_ok (slot_of_getElem? hv)]
  cases h with
  | noObject hobject => exact bind_eq_of_error (perform_of_thrownAs hobject hthrown)
  | @noAnswer w₁ _ _ _ hobject hhas =>
    rw [bind_eq_of_ok (perform_of_ok hobject)]
    exact bind_eq_of_error (perform_of_thrownAs (s := { s with world := w₁ }) hhas hthrown)
  | @noValue w₁ w₂ _ _ _ _ hobject hhas hget =>
    rw [bind_eq_of_ok (perform_of_ok hobject)]
    rw [bind_eq_of_ok (perform_of_ok (s := { s with world := w₁ }) hhas)]
    exact bind_eq_of_error (perform_of_thrownAs (s := { s with world := w₂ }) hget hthrown)

theorem looksUp_of_ends {ok : Bool → Session M κ ω → Prop}
    {error : EngineError → Session M κ ω → Prop} (hkey : Text.decodeUnits key = name)
    (hv : s.slots[index]? = some v) (h : (getProp index key).ends handler ok error s) :
    (∃ answer w, LooksUp handler v name s.world (.ok answer) w) ∨
    ∃ failure u w w', LooksUp handler v name s.world (.error failure) w ∧
      ThrownAs handler failure w u w' := by
  subst hkey
  unfold getProp slot at h
  simp only [ends_bind, ends_read, ends_pure, hv] at h
  rcases answered_or_thrown h with ⟨ref, w₁, hobject, h⟩ | ⟨failure, u, w, w', hobject, ht⟩
  · rcases answered_or_thrown h with ⟨found, w₂, hhas, h⟩ | ⟨failure, u, w, w', hhas, ht⟩
    · rcases answered_or_thrown h with ⟨u, w₃, hget, -⟩ | ⟨failure, u, w, w', hget, ht⟩
      · exact .inl ⟨(found, u), w₃, .found hobject hhas hget⟩
      · exact .inr ⟨failure, u, w, w', .noValue hobject hhas hget, ht⟩
    · exact .inr ⟨failure, u, w, w', .noAnswer hobject hhas, ht⟩
  · exact .inr ⟨failure, u, w, w', .noObject hobject, ht⟩

end

end Stack

namespace Crossing

variable {handler : Handler M BoundFunction (HostState δ)}
  {s : Session M BoundFunction (HostState δ)} {v : ScriptValue} {index : Nat} {key : List UInt8}
  {name : Units}

/-- **The program finds what there is**, puts it on top, and on a failure leaves
the stack as it was. -/
theorem check_getProp_of_found {result : Except Error (Bool × ScriptValue)}
    {w : World M BoundFunction (HostState δ)} (hp : s.poison = none)
    (hkey : Text.decodeUnits key = name) (hv : s.slots[index]? = some v)
    (h : Found handler v name s.world result w) :
    (check (getProp index key) : Crossing M δ Error Bool) handler s =
      match result with
      | .ok answer => .ok answer.1 ⟨w, s.slots.push answer.2, none⟩
      | .error e => .error e ⟨w, s.slots, none⟩ := by
  unfold check
  cases h with
  | answered h =>
    rw [bind_eq_of_ok (attempt_of_ok (getProp_of_looksUp_ok hkey hv h)), hp]
    rfl
  | @thrown failure u w₁ w₂ _ e h hthrown hclassified =>
    rw [bind_eq_of_ok (attempt_of_error (getProp_of_looksUp_error hkey hv h hthrown)), hp]
    obtain ⟨s', hrun, hmoves⟩ := classify_of_classified (α := Bool) (a := s.slots)
      (s := ⟨w₂, s.slots.push u, none⟩) rfl hclassified
    obtain ⟨w', slots, poison⟩ := s'
    obtain rfl : w' = w := hmoves.world
    obtain rfl : poison = none := hmoves.poison
    obtain rfl : slots = s.slots := hmoves.unchanged rfl
    exact hrun

/-- A look-up has only one outcome. -/
theorem found_unique {result result' : Except Error (Bool × ScriptValue)}
    {w w₁ w₂ : World M BoundFunction (HostState δ)} (h : Found handler v name w result w₁)
    (h' : Found handler v name w result' w₂) : result = result' ∧ w₁ = w₂ := by
  have hkey := Text.decodeUnits_encodeUnits name
  have htop : (#[v] : Array ScriptValue)[0]? = some v := rfl
  have hrun := check_getProp_of_found (s := ⟨w, #[v], none⟩) rfl hkey htop h
  have hrun' := check_getProp_of_found (s := ⟨w, #[v], none⟩) rfl hkey htop h'
  rw [hrun] at hrun'
  cases result with
  | ok answer =>
    cases result' with
    | ok answer' =>
      obtain ⟨found, u⟩ := answer
      obtain ⟨found', u'⟩ := answer'
      obtain ⟨rfl, rfl, rfl⟩ : found = found' ∧ w₁ = w₂ ∧ u = u' := by simpa using hrun'
      exact ⟨rfl, rfl⟩
    | error e => cases hrun'
  | error e =>
    cases result' with
    | ok answer' => cases hrun'
    | error e' => simpa using hrun'

/-- A look-up that comes to an end is one of these. -/
theorem exists_found_of_ends {ok : Bool → Session M BoundFunction (HostState δ) → Prop}
    {error : Error → Session M BoundFunction (HostState δ) → Prop}
    (hkey : Text.decodeUnits key = name) (hv : s.slots[index]? = some v)
    (h : (check (getProp index key) : Crossing M δ Error Bool).ends handler ok error s) :
    ∃ result w, Found handler v name s.world result w := by
  unfold check at h
  rw [ends_bind, ends_attempt] at h
  rcases looksUp_of_ends hkey hv h with ⟨answer, w, hfound⟩ | ⟨failure, u, w₁, w₂, hfound, hthrown⟩
  · exact ⟨.ok answer, w, .answered hfound⟩
  · have hrun := getProp_of_looksUp_error (s := s) hkey hv hfound hthrown
    have hclassify := of_ends_of_eq_error h hrun
    obtain ⟨e, s', hrun', -⟩ | ⟨e, s', hrun', -⟩ := outcome_of_ends hclassify
    · exact absurd hrun' (fails_classify _ _ _ _ _)
    · exact ⟨.error e, s'.world,
        .thrown hfound hthrown (classified_of_classify rfl hrun').1⟩

end Crossing

end ScriptHost
