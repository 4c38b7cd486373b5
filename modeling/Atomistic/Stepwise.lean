/-! Computations in steps that keep their state when they fail. A computation of two steps
succeeds exactly when both succeed, one after the other. -/

namespace Atomistic

universe u

variable {ε σ α β : Type u}

theorem bind_of_ok {first : EStateM ε σ α} {state middle : σ} {found : α}
    (met : first state = .ok found middle) (next : α → EStateM ε σ β) :
    (first >>= next) state = next found middle := by
  change EStateM.bind first next state = _
  rw [EStateM.bind, met]

theorem bind_of_error {first : EStateM ε σ α} {state middle : σ} {fault : ε}
    (failed : first state = .error fault middle) (next : α → EStateM ε σ β) :
    (first >>= next) state = .error fault middle := by
  change EStateM.bind first next state = _
  rw [EStateM.bind, failed]

theorem bind_eq_ok_iff {first : EStateM ε σ α} {next : α → EStateM ε σ β} {state last : σ}
    {value : β} :
    (first >>= next) state = .ok value last ↔
      ∃ found middle, first state = .ok found middle ∧ next found middle = .ok value last := by
  change EStateM.bind first next state = _ ↔ _
  unfold EStateM.bind
  cases first state with
  | ok found middle =>
    constructor
    · exact fun done => ⟨found, middle, rfl, done⟩
    · rintro ⟨_, _, met, done⟩
      cases met
      exact done
  | error fault middle => simp

/-- The state that a computation leaves, whether it succeeds or not. -/
def stateAfter : EStateM.Result ε σ α → σ
  | .ok _ state => state
  | .error _ state => state

theorem stateAfter_bind (first : EStateM ε σ α) (next : α → EStateM ε σ β) (state : σ) :
    stateAfter ((first >>= next) state) =
      match first state with
      | .ok found middle => stateAfter (next found middle)
      | .error _ middle => middle := by
  cases met : first state with
  | ok found middle => rw [bind_of_ok met]
  | error fault middle =>
    rw [bind_of_error met]
    rfl

theorem get_bind (next : σ → EStateM ε σ α) (state : σ) :
    ((get : EStateM ε σ σ) >>= next) state = next state state :=
  rfl

theorem pure_eq_ok_iff {given value : α} {state last : σ} :
    (pure given : EStateM ε σ α) state = .ok value last ↔ given = value ∧ state = last := by
  change EStateM.Result.ok given state = _ ↔ _
  simp

instance decidableEqResult [DecidableEq ε] [DecidableEq σ] [DecidableEq α] :
    DecidableEq (EStateM.Result ε σ α)
  | .ok value state, .ok other last =>
    decidable_of_iff (value = other ∧ state = last) (by simp)
  | .error fault state, .error other last =>
    decidable_of_iff (fault = other ∧ state = last) (by simp)
  | .ok _ _, .error _ _ => .isFalse nofun
  | .error _ _, .ok _ _ => .isFalse nofun

end Atomistic
