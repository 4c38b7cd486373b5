import Mathlib.Data.List.Forall2

/-! Results that are a value or an error. Steps in a row succeed exactly when each of them
does, and so do steps along a list. -/

namespace Atomistic

universe u

variable {ε α β : Type u}

@[simp]
theorem ok_bind (value : α) (next : α → Except ε β) : (Except.ok value >>= next) = next value :=
  rfl

@[simp]
theorem error_bind (fault : ε) (next : α → Except ε β) :
    (Except.error fault >>= next) = .error fault :=
  rfl

theorem result_bind_eq_ok_iff {first : Except ε α} {next : α → Except ε β} {value : β} :
    (first >>= next) = .ok value ↔ ∃ found, first = .ok found ∧ next found = .ok value := by
  cases first with
  | ok found => simp
  | error fault => simp

@[simp]
theorem pure_eq_ok (value : α) : (pure value : Except ε α) = .ok value :=
  rfl

theorem mapError_eq_ok_iff {δ : Type u} {result : Except ε α} {change : ε → δ} {value : α} :
    result.mapError change = .ok value ↔ result = .ok value := by
  cases result with
  | ok found =>
    constructor
    · rintro ⟨⟩
      rfl
    · rintro ⟨⟩
      rfl
  | error fault => exact ⟨nofun, nofun⟩

/-- What is written value by value is read value by value. -/
theorem mapM_map_eq_ok {read : β → Except ε α} {write : α → β} {values : List α}
    (back : ∀ value ∈ values, read (write value) = .ok value) :
    (values.map write).mapM read = .ok values := by
  induction values with
  | nil => rfl
  | cons value rest ih =>
    have first := back value (by simp)
    have others := ih fun other member => back other (by simp [member])
    simp [first, others]

/-- Steps along a list succeed with these results exactly when each step does with its own. -/
theorem mapM_eq_ok_iff {step : α → Except ε β} {related : α → β → Prop} {values : List α}
    (each : ∀ value ∈ values, ∀ result, step value = .ok result ↔ related value result)
    {results : List β} :
    values.mapM step = .ok results ↔ List.Forall₂ related values results := by
  induction values generalizing results with
  | nil =>
    rw [List.mapM_nil, List.forall₂_nil_left_iff]
    constructor
    · rintro ⟨⟩
      rfl
    · rintro rfl
      rfl
  | cons value rest ih =>
    have others := @ih fun other member => each other (List.mem_cons_of_mem _ member)
    rw [List.mapM_cons, result_bind_eq_ok_iff, List.forall₂_cons_left_iff]
    constructor
    · rintro ⟨first, met, done⟩
      obtain ⟨later, stepped, done⟩ := result_bind_eq_ok_iff.1 done
      cases done
      exact ⟨first, later, (each value (by simp) first).1 met, others.1 stepped, rfl⟩
    · rintro ⟨first, later, met, stepped, rfl⟩
      refine ⟨first, (each value (by simp) first).2 met, ?_⟩
      rw [others.2 stepped, ok_bind, pure_eq_ok]

theorem exists_mapM_eq_ok {step : α → Except ε β} {values : List α}
    (each : ∀ value ∈ values, ∃ result, step value = .ok result) :
    ∃ results, values.mapM step = .ok results := by
  induction values with
  | nil => exact ⟨[], rfl⟩
  | cons value rest ih =>
    obtain ⟨⟨first, done⟩, others⟩ := List.forall_mem_cons.1 each
    obtain ⟨later, stepped⟩ := ih others
    exact ⟨first :: later, by rw [List.mapM_cons, done, ok_bind, stepped, ok_bind]; rfl⟩

theorem exists_of_forall₂_right {related : α → β → Prop} {values : List α} {results : List β}
    (all : List.Forall₂ related values results) {result : β} (member : result ∈ results) :
    ∃ value ∈ values, related value result := by
  induction all with
  | nil => cases member
  | cons first others ih =>
    rcases List.mem_cons.1 member with rfl | inside
    · exact ⟨_, by simp, first⟩
    · obtain ⟨value, among, holds⟩ := ih inside
      exact ⟨value, by simp [among], holds⟩

theorem length_of_mapM {step : α → Except ε β} {values : List α} {results : List β}
    (done : values.mapM step = .ok results) : results.length = values.length :=
  ((mapM_eq_ok_iff fun _ _ _ => Iff.rfl).1 done).length_eq.symm

theorem exists_of_mem_mapM {step : α → Except ε β} {values : List α} {results : List β}
    (done : values.mapM step = .ok results) {result : β} (member : result ∈ results) :
    ∃ value ∈ values, step value = .ok result :=
  exists_of_forall₂_right ((mapM_eq_ok_iff fun _ _ _ => Iff.rfl).1 done) member

theorem exists_result_of_mapM {step : α → Except ε β} {values : List α} {results : List β}
    (done : values.mapM step = .ok results) {value : α} (member : value ∈ values) :
    ∃ result ∈ results, step value = .ok result :=
  exists_of_forall₂_right ((mapM_eq_ok_iff fun _ _ _ => Iff.rfl).1 done).flip member

/-- If the result is an error, it is one of these. -/
def FailsOnly (allowed : ε → Prop) (result : Except ε α) : Prop :=
  ∀ fault, result = .error fault → allowed fault

namespace FailsOnly

variable {allowed : ε → Prop}

theorem ok (value : α) : FailsOnly allowed (.ok value) := by
  intro fault failed
  cases failed

theorem error {fault : ε} (allows : allowed fault) :
    FailsOnly allowed (.error fault : Except ε α) := by
  intro other failed
  cases failed
  exact allows

theorem bind {first : Except ε α} {next : α → Except ε β} (before : FailsOnly allowed first)
    (after : ∀ value, FailsOnly allowed (next value)) : FailsOnly allowed (first >>= next) := by
  cases first with
  | ok value => exact after value
  | error fault => exact .error (before fault rfl)

theorem mapM {step : α → Except ε β} {values : List α}
    (each : ∀ value ∈ values, FailsOnly allowed (step value)) :
    FailsOnly allowed (values.mapM step) := by
  induction values with
  | nil => exact .ok []
  | cons value rest ih =>
    obtain ⟨first, others⟩ := List.forall_mem_cons.1 each
    rw [List.mapM_cons]
    exact first.bind fun _ => (ih others).bind fun _ => .ok _

end FailsOnly

end Atomistic
