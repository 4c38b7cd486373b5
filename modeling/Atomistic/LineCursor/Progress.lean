import Atomistic.LineCursor
import Atomistic.Stepwise

/-! Reading uses up lines. No reading brings lines back, and one that reads a line leaves
fewer lines than before. -/

namespace Atomistic

open Text LineCursor

/-- A reading that succeeds leaves at most so many lines as before. -/
def NeverGrows {α : Type} (reading : Reading α) : Prop :=
  ∀ cursor value rest, reading cursor = .ok value rest → rest.remaining ≤ cursor.remaining

/-- A reading that succeeds leaves fewer lines than before. -/
def Consumes {α : Type} (reading : Reading α) : Prop :=
  ∀ cursor value rest, reading cursor = .ok value rest → rest.remaining < cursor.remaining

namespace NeverGrows

theorem of_consumes {α : Type} {reading : Reading α} (consumes : Consumes reading) :
    NeverGrows reading :=
  fun cursor value rest done => Nat.le_of_lt (consumes cursor value rest done)

theorem pure {α : Type} (value : α) : NeverGrows (pure value : Reading α) := by
  intro cursor found rest done
  cases done
  exact Nat.le_refl _

theorem bind {α β : Type} {reading : Reading α} {next : α → Reading β}
    (first : NeverGrows reading) (second : ∀ value, NeverGrows (next value)) :
    NeverGrows (reading >>= next) := by
  intro cursor value rest done
  obtain ⟨found, middle, met, done⟩ := bind_eq_ok_iff.1 done
  exact Nat.le_trans (second found middle value rest done) (first cursor found middle met)

theorem settle {α : Type} (result : Except Fault α) : NeverGrows (settle result) := by
  intro cursor value rest done
  cases result with
  | ok found => cases done; exact Nat.le_refl _
  | error fault => cases done

end NeverGrows

namespace Consumes

theorem bind {α β : Type} {reading : Reading α} {next : α → Reading β}
    (first : Consumes reading) (second : ∀ value, NeverGrows (next value)) :
    Consumes (reading >>= next) := by
  intro cursor value rest done
  obtain ⟨found, middle, met, done⟩ := bind_eq_ok_iff.1 done
  exact Nat.lt_of_le_of_lt (second found middle value rest done) (first cursor found middle met)

end Consumes

theorem remaining_of_read_some {cursor rest : LineCursor} {line : Line}
    (done : LineCursor.read cursor = .ok (some line) rest) :
    rest.remaining < cursor.remaining := by
  obtain ⟨unread, ending, lookahead, pulled, lineNumber⟩ := cursor
  cases lookahead with
  | cons head lookahead => cases done; simp [remaining]
  | nil =>
    cases unread with
    | cons raw unread => cases done; simp [remaining]
    | nil => cases ending <;> cases done

theorem consumes_require (reading : String) : Consumes (require reading) := by
  intro cursor line rest done
  obtain ⟨found, middle, met, done⟩ := bind_eq_ok_iff.1 done
  cases found with
  | none => cases done
  | some found => cases done; exact remaining_of_read_some met

theorem consumes_readAs {α : Type} (reading : String) (parse : Line → Except Fault α) :
    Consumes (readAs reading parse) := by
  apply (consumes_require reading).bind
  intro line cursor value rest done
  exact NeverGrows.settle _ cursor value rest done

/-- Looking ahead moves lines but loses none. -/
theorem remaining_pullThroughBlank (cursor : LineCursor) :
    cursor.pullThroughBlank.remaining = cursor.remaining := by
  simp only [pullThroughBlank, remaining, List.length_append, List.length_map,
    List.length_zipIdx, List.length_take, List.length_drop]
  omega

theorem neverGrows_atEnd : NeverGrows atEnd := by
  intro cursor value rest done
  unfold atEnd passEnd at done
  split at done
  · cases done; exact Nat.le_refl _
  · split at done
    · split at done <;> cases done
      exact Nat.le_of_eq (remaining_pullThroughBlank cursor)
    · cases done
      exact Nat.le_of_eq (remaining_pullThroughBlank cursor)

end Atomistic
