import Atomistic.Frame.Progress
import Atomistic.FrameStream.Basic

/-! Taking frames uses up lines, so a walk along a stream comes to an end. -/

namespace Atomistic.FrameStream

private theorem remaining_onLines {α : Type} {reading : Reading α} {stream rest : FrameStream}
    {value : α} (done : onLines reading stream = .ok value rest) :
    ∃ cursor, reading stream.cursor = .ok value cursor ∧ rest.cursor = cursor := by
  unfold onLines at done
  split at done
  next found cursor met => cases done; exact ⟨cursor, met, rfl⟩
  next => cases done

private theorem remaining_atEnd {stream rest : FrameStream} {value : Bool}
    (done : atEnd stream = .ok value rest) :
    rest.cursor.remaining ≤ stream.cursor.remaining := by
  obtain ⟨same, middle, met, done⟩ := bind_eq_ok_iff.1 done
  cases met
  split at done
  next => cases done; exact Nat.le_refl _
  next =>
    obtain ⟨found, middle, met, done⟩ := bind_eq_ok_iff.1 done
    obtain ⟨cursor, looked, moved⟩ := remaining_onLines met
    have kept := neverGrows_atEnd _ _ _ looked
    cases found <;> cases done <;> simpa [moved] using kept

private theorem remaining_onLines_le {α : Type} {reading : Reading α}
    (kept : NeverGrows reading) {stream rest : FrameStream} {value : α}
    (done : onLines reading stream = .ok value rest) :
    rest.cursor.remaining ≤ stream.cursor.remaining := by
  obtain ⟨cursor, read, moved⟩ := remaining_onLines done
  exact moved ▸ kept _ _ _ read

theorem remaining_takeFrame {α : Type} {reading : Reading α} (consumes : Consumes reading)
    {stream rest : FrameStream} {value : α}
    (done : takeFrame reading stream = .ok (some value) rest) :
    rest.cursor.remaining < stream.cursor.remaining := by
  obtain ⟨same, middle, met, done⟩ := bind_eq_ok_iff.1 done
  cases stopped : same.stoppedBy with
  | some fault => rw [stopped] at done; cases done
  | none =>
    rw [stopped] at done
    cases met
    obtain ⟨atEnd, middle, met, done⟩ := bind_eq_ok_iff.1 done
    cases atEnd with
    | true => cases done
    | false =>
      obtain ⟨found, last, read, done⟩ := bind_eq_ok_iff.1 done
      cases done
      obtain ⟨cursor, read, moved⟩ := remaining_onLines read
      rw [moved]
      exact Nat.lt_of_lt_of_le (consumes _ _ _ read) (remaining_atEnd met)

theorem remaining_takeFrame_le {α : Type} {reading : Reading α} (kept : NeverGrows reading)
    {stream rest : FrameStream} {value : Option α}
    (done : takeFrame reading stream = .ok value rest) :
    rest.cursor.remaining ≤ stream.cursor.remaining := by
  obtain ⟨same, middle, met, done⟩ := bind_eq_ok_iff.1 done
  cases stopped : same.stoppedBy with
  | some fault => rw [stopped] at done; cases done
  | none =>
    rw [stopped] at done
    cases met
    obtain ⟨atEnd, middle, met, done⟩ := bind_eq_ok_iff.1 done
    cases atEnd with
    | true => cases done; exact remaining_atEnd met
    | false =>
      obtain ⟨found, last, read, done⟩ := bind_eq_ok_iff.1 done
      cases done
      exact Nat.le_trans (remaining_onLines_le kept read) (remaining_atEnd met)

theorem remaining_forward {stream rest : FrameStream} {passed : Bool}
    (done : forward stream = .ok passed rest) :
    rest.cursor.remaining ≤ stream.cursor.remaining := by
  obtain ⟨found, middle, met, done⟩ := bind_eq_ok_iff.1 done
  cases found with
  | none =>
    cases done
    exact remaining_takeFrame_le (.of_consumes Frame.consumes_skip) met
  | some found =>
    cases done
    change middle.cursor.remaining ≤ _
    exact remaining_takeFrame_le (.of_consumes Frame.consumes_skip) met

theorem remaining_passed {stream rest : FrameStream} (done : forward stream = .ok true rest) :
    rest.cursor.remaining < stream.cursor.remaining := by
  obtain ⟨found, middle, met, done⟩ := bind_eq_ok_iff.1 done
  cases found with
  | none => cases done
  | some found =>
    cases done
    change middle.cursor.remaining < _
    exact remaining_takeFrame Frame.consumes_skip met

theorem remaining_forwardUpTo {count passed : Nat} {stream rest : FrameStream}
    (done : forwardUpTo count stream = .ok passed rest) :
    rest.cursor.remaining ≤ stream.cursor.remaining := by
  induction count generalizing stream passed with
  | zero => cases done; exact Nat.le_refl _
  | succ count ih =>
    obtain ⟨found, middle, met, done⟩ := bind_eq_ok_iff.1 done
    cases found with
    | false => cases done; exact remaining_forward met
    | true =>
      obtain ⟨more, last, moved, done⟩ := bind_eq_ok_iff.1 done
      cases done
      exact Nat.le_trans (ih moved) (remaining_forward met)

theorem remaining_next {stream rest : FrameStream} {frame : Frame}
    (done : next stream = .ok (some frame) rest) :
    rest.cursor.remaining < stream.cursor.remaining := by
  obtain ⟨found, middle, met, done⟩ := bind_eq_ok_iff.1 done
  cases found with
  | none => cases done
  | some found =>
    cases done
    change middle.cursor.remaining < _
    exact remaining_takeFrame Frame.consumes_read met

end Atomistic.FrameStream
