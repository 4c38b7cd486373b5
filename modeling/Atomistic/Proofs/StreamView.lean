import Atomistic.FrameStream.Drain
import Atomistic.Proofs.CursorView

/-! What a step along a stream of frames does, in terms of the lines that are left. -/

namespace Atomistic.FrameStream

open Text

theorem onLines_of_ok {α : Type} {reading : Reading α} {value : α} {cursor : LineCursor}
    (stream : FrameStream) (done : reading stream.cursor = .ok value cursor) :
    onLines reading stream = .ok value { stream with cursor } := by
  rw [onLines, done]

theorem onLines_of_error {α : Type} {reading : Reading α} {fault : Fault} {cursor : LineCursor}
    (stream : FrameStream) (failed : reading stream.cursor = .error fault cursor) :
    onLines reading stream = .error fault ({ stream with cursor }.stopping fault) := by
  rw [onLines, failed]

theorem atEnd_eq {stream : FrameStream} (unended : stream.ended = false) :
    atEnd stream =
      match LineCursor.atEnd stream.cursor with
      | .error fault cursor => .error fault ({ stream with cursor }.stopping fault)
      | .ok true cursor => .ok true { stream with cursor, ended := true }
      | .ok false cursor => .ok false { stream with cursor } := by
  obtain ⟨cursor, stoppedBy, ended, closed, framesRead, framesSkipped⟩ := stream
  subst unended
  unfold atEnd
  rw [get_bind, if_neg Bool.false_ne_true]
  cases looked : LineCursor.atEnd cursor with
  | error fault after => rw [bind_of_error (onLines_of_error ⟨cursor, _, _, _, _, _⟩ looked)]
  | ok found after =>
    rw [bind_of_ok (onLines_of_ok ⟨cursor, _, _, _, _, _⟩ looked)]
    cases found <;> rfl

/-- Everything that an attempt to take a frame can do. -/
theorem takeFrame_eq {α : Type} (reading : Reading α) (stream : FrameStream) :
    takeFrame reading stream =
      match stream.stoppedBy, stream.ended with
      | some fault, _ => .error (.format fault) stream
      | none, true => .ok none stream
      | none, false =>
        match LineCursor.atEnd stream.cursor with
        | .error fault cursor => .error fault ({ stream with cursor }.stopping fault)
        | .ok true cursor => .ok none { stream with cursor, ended := true }
        | .ok false cursor =>
          match reading cursor with
          | .error fault after => .error fault ({ stream with cursor := after }.stopping fault)
          | .ok value after => .ok (some value) { stream with cursor := after } := by
  obtain ⟨cursor, stoppedBy, ended, closed, framesRead, framesSkipped⟩ := stream
  unfold takeFrame
  rw [get_bind]
  cases stoppedBy with
  | some fault => rfl
  | none =>
    cases ended with
    | true =>
      rfl
    | false =>
      have seen := @atEnd_eq ⟨cursor, none, false, closed, framesRead, framesSkipped⟩ rfl
      cases looked : LineCursor.atEnd cursor with
      | error fault after =>
        simp only [looked] at seen
        exact bind_of_error seen _
      | ok found after =>
        simp only [looked] at seen
        cases found with
        | true => exact bind_of_ok seen _
        | false =>
          apply (bind_of_ok seen _).trans
          rw [if_neg Bool.false_ne_true]
          dsimp only
          cases done : reading after with
          | error fault last => exact bind_of_error (onLines_of_error ⟨after, _, _, _, _, _⟩ done) _
          | ok value last => exact bind_of_ok (onLines_of_ok ⟨after, _, _, _, _, _⟩ done) _

theorem next_eq (stream : FrameStream) :
    next stream =
      match takeFrame Frame.read stream with
      | .error fault rest => .error fault rest
      | .ok none rest => .ok none rest
      | .ok (some frame) rest => .ok (some frame) rest.countRead := by
  unfold next
  cases taken : takeFrame Frame.read stream with
  | error fault rest => exact bind_of_error taken _
  | ok found rest =>
    rw [bind_of_ok taken]
    cases found <;> rfl

theorem forward_eq (stream : FrameStream) :
    forward stream =
      match takeFrame Frame.skip stream with
      | .error fault rest => .error fault rest
      | .ok none rest => .ok false rest
      | .ok (some _) rest => .ok true rest.countSkipped := by
  unfold forward
  cases taken : takeFrame Frame.skip stream with
  | error fault rest => exact bind_of_error taken _
  | ok found rest =>
    rw [bind_of_ok taken]
    cases found <;> rfl

theorem takeFrame_eq_some_iff {α : Type} {reading : Reading α} {stream rest : FrameStream}
    {value : α} :
    takeFrame reading stream = .ok (some value) rest ↔
      stream.stoppedBy = none ∧ stream.ended = false ∧ ∃ middle last,
        LineCursor.atEnd stream.cursor = .ok false middle ∧ reading middle = .ok value last ∧
          { stream with cursor := last } = rest := by
  rw [takeFrame_eq]
  constructor
  · intro done
    split at done
    next => cases done
    next => cases done
    next unstopped unended =>
      refine ⟨unstopped, unended, ?_⟩
      split at done
      next => cases done
      next => cases done
      next middle looked =>
        split at done
        next => cases done
        next found last read =>
          cases done
          exact ⟨middle, last, looked, read, rfl⟩
  · rintro ⟨unstopped, unended, middle, last, looked, read, rfl⟩
    simp only [unstopped, unended, looked, read]

theorem takeFrame_eq_none_iff {α : Type} {reading : Reading α} {stream rest : FrameStream} :
    takeFrame reading stream = .ok none rest ↔
      stream.stoppedBy = none ∧ ((stream.ended = true ∧ stream = rest) ∨
        (stream.ended = false ∧ ∃ cursor, LineCursor.atEnd stream.cursor = .ok true cursor ∧
          { stream with cursor, ended := true } = rest)) := by
  rw [takeFrame_eq]
  constructor
  · intro done
    split at done
    next => cases done
    next unstopped ended =>
      cases done
      exact ⟨unstopped, .inl ⟨ended, rfl⟩⟩
    next unstopped unended =>
      split at done
      next => cases done
      next cursor looked =>
        cases done
        exact ⟨unstopped, .inr ⟨unended, cursor, looked, rfl⟩⟩
      next => split at done <;> cases done
  · rintro ⟨unstopped, ⟨ended, rfl⟩ | ⟨unended, cursor, looked, rfl⟩⟩
    · simp only [unstopped, ended]
    · simp only [unstopped, unended, looked]

theorem next_eq_none_iff {stream rest : FrameStream} :
    next stream = .ok none rest ↔ takeFrame Frame.read stream = .ok none rest := by
  rw [next_eq]
  split
  next failed => simp [failed]
  next ended => simp [ended]
  next taken => simp [taken]

theorem next_eq_some_iff {stream rest : FrameStream} {frame : Frame} :
    next stream = .ok (some frame) rest ↔
      ∃ middle, takeFrame Frame.read stream = .ok (some frame) middle ∧
        middle.countRead = rest := by
  rw [next_eq]
  split
  next failed => simp [failed]
  next ended => simp [ended]
  next found middle taken =>
    constructor
    · intro done
      cases done
      exact ⟨middle, taken, rfl⟩
    · rintro ⟨_, again, rfl⟩
      cases taken.symm.trans again
      rfl

theorem skip_of_natural {count : Int} (natural : 0 ≤ count) :
    skip count = forwardUpTo count.toNat :=
  if_neg (Int.not_lt.2 natural)

theorem drain_eq (stream : FrameStream) :
    drain stream =
      match next stream with
      | .error fault rest => .error fault rest
      | .ok none rest => .ok [] rest
      | .ok (some frame) rest =>
        match drain rest with
        | .ok frames last => .ok (frame :: frames) last
        | .error fault last => .error fault last := by
  rw [drain]
  split
  next failed => simp only [failed]
  next ended => simp only [ended]
  next frame rest met =>
    cases later : drain rest <;> simp only [met, later]

theorem drain_of_none {stream rest : FrameStream} (done : next stream = .ok none rest) :
    drain stream = .ok [] rest := by
  rw [drain_eq, done]

theorem drain_of_some {stream rest last : FrameStream} {frame : Frame} {frames : List Frame}
    (done : next stream = .ok (some frame) rest) (later : drain rest = .ok frames last) :
    drain stream = .ok (frame :: frames) last := by
  rw [drain_eq, done]
  simp only [later]

/-- Draining starts with the next frame, if there is one. -/
theorem drain_eq_ok_iff {stream last : FrameStream} {frames : List Frame} :
    drain stream = .ok frames last ↔
      match frames with
      | [] => next stream = .ok none last
      | frame :: later => ∃ rest, next stream = .ok (some frame) rest ∧
          drain rest = .ok later last := by
  constructor
  · intro done
    rw [drain_eq] at done
    split at done
    next => cases done
    next met =>
      cases done
      exact met
    next frame rest met =>
      split at done
      next later =>
        cases done
        exact ⟨rest, met, later⟩
      next => cases done
  · intro done
    cases frames with
    | nil => exact drain_of_none done
    | cons frame later =>
      obtain ⟨rest, met, drained⟩ := done
      exact drain_of_some met drained

/-- Draining fails where the next frame does, after the frames that were met before. -/
theorem drain_error_induction {fault : Fault} {rest : FrameStream} {motive : FrameStream → Prop}
    (fails : ∀ stream, next stream = .error fault rest → motive stream)
    (goesOn : ∀ stream frame middle, next stream = .ok (some frame) middle → motive middle →
      motive stream)
    {stream : FrameStream} (failed : drain stream = .error fault rest) : motive stream := by
  induction stream using drain.induct with
  | case1 stream early middle met =>
    rw [drain_eq, met] at failed
    cases failed
    exact fails stream met
  | case2 stream middle met =>
    rw [drain_eq, met] at failed
    cases failed
  | case3 stream frame middle met frames last drained ih =>
    rw [drain_eq, met] at failed
    simp only [drained] at failed
    cases failed
  | case4 stream frame middle met early last failedLater ih =>
    rw [drain_eq, met] at failed
    simp only [failedLater] at failed
    cases failed
    exact goesOn stream frame middle met (ih failedLater)

/-- Where each step forward takes one item off what lies ahead, so many steps take so many, as
long as there are any. -/
theorem forwardUpTo_of_forward {α : Type} {ahead : FrameStream → List α → Prop}
    (step : ∀ {stream left}, ahead stream left → ∃ rest,
      forward stream = .ok (decide (0 < left.length)) rest ∧ ahead rest (left.drop 1))
    {stream : FrameStream} {left : List α} (holds : ahead stream left) (count : Nat) :
    ∃ rest, forwardUpTo count stream = .ok (min count left.length) rest ∧
      ahead rest (left.drop count) := by
  induction count generalizing stream left with
  | zero => exact ⟨stream, by rw [Nat.zero_min]; rfl, holds⟩
  | succ count ih =>
    obtain ⟨middle, done, after⟩ := step holds
    cases left with
    | nil => exact ⟨middle, bind_of_ok done _, by simpa using after⟩
    | cons item later =>
      obtain ⟨rest, others, left⟩ := ih after
      refine ⟨rest, ?_, left⟩
      refine (bind_of_ok done _).trans ((bind_of_ok others _).trans ?_)
      rw [List.length_cons, Nat.add_min_add_right]
      rfl

/-- A stream that goes on has these lines left. -/
structure Running (stream : FrameStream) (taken : Nat) (left : List Line) : Prop where
  unstopped : stream.stoppedBy = none
  unended : stream.ended = false
  shows : stream.cursor.Shows taken left

theorem running_ofText (text : String) :
    (ofText text).Running 0 ((rawLines text.toList).map stripTerminator) :=
  ⟨rfl, rfl, LineCursor.shows_ofText text⟩

variable {stream : FrameStream} {taken : Nat} {left : List Line}

theorem Running.takeFrame_blank {α : Type} (running : stream.Running taken left)
    (blank : left.all isBlankLine = true) (reading : Reading α) :
    ∃ cursor, takeFrame reading stream = .ok none { stream with cursor, ended := true } ∧
      cursor.Shows taken left := by
  obtain ⟨cursor, looked, shows⟩ := running.shows.atEnd
  refine ⟨cursor, ?_, shows⟩
  rw [takeFrame_eq, running.unstopped, running.unended, looked, blank]

theorem Running.takeFrame_takes {α : Type} {lines : List Line}
    (running : stream.Running taken (lines ++ left))
    (content : (lines ++ left).all isBlankLine = false) {reading : Reading α} {value : α}
    (takes : Takes reading lines value) :
    ∃ cursor, takeFrame reading stream = .ok (some value) { stream with cursor } ∧
      cursor.Shows (taken + lines.length) left := by
  obtain ⟨middle, looked, shows⟩ := running.shows.atEnd
  obtain ⟨cursor, done, shows⟩ := takes middle taken left shows
  refine ⟨cursor, ?_, shows⟩
  rw [takeFrame_eq, running.unstopped, running.unended, looked, content]
  simp only [done]

theorem Running.next_blank (running : stream.Running taken left)
    (blank : left.all isBlankLine = true) : ∃ rest, next stream = .ok none rest := by
  obtain ⟨cursor, ended, -⟩ := running.takeFrame_blank blank Frame.read
  exact ⟨_, next_eq_none_iff.2 ended⟩

theorem Running.next_takes_of_content {lines : List Line}
    (running : stream.Running taken (lines ++ left))
    (content : (lines ++ left).all isBlankLine = false) {frame : Frame}
    (takes : Takes Frame.read lines frame) :
    ∃ rest, next stream = .ok (some frame) rest ∧ rest.Running (taken + lines.length) left := by
  obtain ⟨cursor, met, shows⟩ := running.takeFrame_takes content takes
  exact ⟨_, next_eq_some_iff.2 ⟨_, met, rfl⟩, running.unstopped, running.unended, shows⟩

theorem Running.next_takes {lines : List Line}
    (running : stream.Running taken (lines ++ left)) (content : lines.all isBlankLine = false)
    {frame : Frame} (takes : Takes Frame.read lines frame) :
    ∃ rest, next stream = .ok (some frame) rest ∧ rest.Running (taken + lines.length) left :=
  running.next_takes_of_content (by rw [List.all_append, content, Bool.false_and]) takes

/-- What a running stream takes stands in front of the lines that are left. -/
theorem Running.takeFrame_recognised {α : Type} {reading : Reading α}
    {spells : List Line → α → Prop} {value : α} {rest : FrameStream}
    (running : stream.Running taken left) (recognises : Recognises reading spells)
    (met : takeFrame reading stream = .ok (some value) rest) :
    left.all isBlankLine = false ∧ ∃ lines later, left = lines ++ later ∧ spells lines value ∧
      rest.Running (taken + lines.length) later := by
  obtain ⟨unstopped, unended, cursor, after, looked, read, rfl⟩ := takeFrame_eq_some_iff.1 met
  obtain ⟨again, looked', shows⟩ := running.shows.atEnd
  injection looked'.symm.trans looked with content same
  subst same
  obtain ⟨lines, later, cut, spelled, shows⟩ := recognises.spelled shows read
  exact ⟨content, lines, later, cut, spelled, unstopped, unended, shows⟩

end Atomistic.FrameStream
