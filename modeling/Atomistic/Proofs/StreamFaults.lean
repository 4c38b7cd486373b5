import Atomistic.Proofs.StreamCalls
import Atomistic.Proofs.TextFaults

/-! Faults along a stream. A fault of the format stops a stream for good. A fault of a value
does not: the stream goes on from the line it had come to, which need not begin a frame. -/

namespace Atomistic

open Text LineCursor

theorem LineCursor.Within.atEnd {cursor : LineCursor} {lines : List Line}
    (within : cursor.Within lines) :
    ∃ found rest, cursor.atEnd = .ok found rest ∧ rest.Within lines := by
  obtain ⟨front, left, rfl, shows⟩ := within
  obtain ⟨rest, looked, shows⟩ := shows.atEnd
  exact ⟨_, rest, looked, front, left, rfl, shows⟩

namespace FrameStream

/-- Taking a frame fails because the stream was stopped before, or else because the reading fails
where the stream has come to. -/
theorem takeFrame_error_cases {α : Type} {reading : Reading α} {stream rest : FrameStream}
    {lines : List Line} {fault : Fault} (within : stream.cursor.Within lines)
    (failed : takeFrame reading stream = .error fault rest) :
    (∃ cause, stream.stoppedBy = some cause ∧ fault = .format cause ∧ rest = stream) ∨
      (stream.stoppedBy = none ∧ stream.ended = false ∧ ∃ cursor after, cursor.Within lines ∧
        reading cursor = .error fault after ∧
        rest = { stream with cursor := after }.stopping fault) := by
  obtain ⟨found, cursor, looked, inside⟩ := within.atEnd
  rw [takeFrame_eq, looked] at failed
  split at failed
  next cause stopped =>
    cases failed
    exact .inl ⟨cause, stopped, rfl, rfl⟩
  next => cases failed
  next unstopped unended =>
    cases found with
    | true => cases failed
    | false =>
      dsimp only at failed
      split at failed
      next early after read =>
        cases failed
        exact .inr ⟨unstopped, unended, cursor, after, inside, read, rfl⟩
      next => cases failed

/-- How a fault leaves a stream: stopped by it, or neither stopped nor at its end. -/
def LeftBy (stream : FrameStream) (fault : Fault) : Prop :=
  (∃ cause, fault = .format cause ∧ stream.stoppedBy = some cause) ∨
    (fault.OfValue ∧ stream.isExhausted = false)

/-- A walk that stays among these lines, and when it fails leaves the stream as its fault
says. -/
structure Walks {α : Type} (lines : List Line) (walk : Streaming α) : Prop where
  ok : ∀ stream value rest, stream.cursor.Within lines → walk stream = .ok value rest →
    rest.cursor.Within lines
  error : ∀ stream fault rest, stream.cursor.Within lines → walk stream = .error fault rest →
    rest.cursor.Within lines ∧ rest.LeftBy fault

namespace Walks

variable {α β : Type} {lines : List Line}

theorem pure (value : α) : Walks lines (pure value) where
  ok := by
    intro stream found rest within done
    obtain ⟨-, rfl⟩ := pure_eq_ok_iff.1 done
    exact within
  error := by
    intro stream fault rest within failed
    cases failed

theorem modify (change : FrameStream → FrameStream)
    (kept : ∀ stream, (change stream).cursor = stream.cursor) :
    Walks lines (modify change : Streaming Unit) where
  ok := by
    intro stream value rest within done
    cases done
    exact (kept stream).symm ▸ within
  error := by
    intro stream fault rest within failed
    cases failed

theorem bind {walk : Streaming α} {next : α → Streaming β} (before : Walks lines walk)
    (after : ∀ value, Walks lines (next value)) : Walks lines (walk >>= next) where
  ok := by
    intro stream value rest within done
    obtain ⟨found, middle, met, done⟩ := bind_eq_ok_iff.1 done
    exact (after found).ok middle value rest (before.ok stream found middle within met) done
  error := by
    intro stream fault rest within failed
    cases met : walk stream with
    | error early middle =>
      rw [bind_of_error met] at failed
      cases failed
      exact before.error stream fault rest within met
    | ok found middle =>
      rw [bind_of_ok met] at failed
      exact (after found).error middle fault rest (before.ok stream found middle within met) failed

theorem takeFrame {reading : Reading α} {property : α → Prop}
    (reads : Reads lines property reading) : Walks lines (takeFrame reading) where
  ok := by
    intro stream value rest within done
    cases value with
    | none =>
      obtain ⟨-, ⟨-, rfl⟩ | ⟨-, cursor, looked, rfl⟩⟩ := takeFrame_eq_none_iff.1 done
      · exact within
      · obtain ⟨found, after, again, within⟩ := within.atEnd
        cases again.symm.trans looked
        exact within
    | some value =>
      obtain ⟨-, -, middle, last, looked, read, rfl⟩ := takeFrame_eq_some_iff.1 done
      obtain ⟨found, after, again, within⟩ := within.atEnd
      cases again.symm.trans looked
      exact (reads.ok middle value last within read).1
  error := by
    intro stream fault rest within failed
    rcases takeFrame_error_cases within failed with
      ⟨cause, stopped, rfl, rfl⟩ | ⟨unstopped, unended, cursor, after, inside, read, rfl⟩
    · exact ⟨within, .inl ⟨cause, rfl, stopped⟩⟩
    · obtain ⟨inside, located⟩ := reads.error cursor fault after inside read
      rcases located with ⟨cause, line, rfl, -⟩ | traced
      · exact ⟨inside, .inl ⟨_, rfl, rfl⟩⟩
      · cases traced
        all_goals
          refine ⟨inside, .inr ⟨by constructor, ?_⟩⟩
          simp [stopping, isExhausted, unstopped, unended]

variable (lines)

theorem next : Walks lines next := by
  apply (takeFrame (Frame.reads_read lines)).bind
  intro found
  cases found with
  | none => exact .pure none
  | some frame => exact (modify countRead fun _ => rfl).bind fun _ => .pure _

theorem forward : Walks lines forward := by
  apply (takeFrame (Frame.reads_skip lines)).bind
  intro found
  cases found with
  | none => exact .pure false
  | some _ => exact (modify countSkipped fun _ => rfl).bind fun _ => .pure _

theorem forwardUpTo (count : Nat) : Walks lines (forwardUpTo count) := by
  induction count with
  | zero => exact .pure 0
  | succ count ih =>
    apply (forward lines).bind
    intro found
    cases found with
    | false => exact .pure 0
    | true => exact ih.bind fun more => .pure _

theorem drain : Walks lines drain where
  ok := by
    intro stream frames rest within done
    induction frames generalizing stream with
    | nil => exact (next lines).ok stream none rest within (drain_eq_ok_iff.1 done)
    | cons frame later ih =>
      obtain ⟨middle, met, others⟩ := drain_eq_ok_iff.1 done
      exact ih middle ((next lines).ok stream _ middle within met) others
  error := by
    intro stream fault rest within failed
    refine @drain_error_induction fault rest (fun stream => stream.cursor.Within lines →
      rest.cursor.Within lines ∧ rest.LeftBy fault) ?_ ?_ stream failed within
    · intro stream failed within
      exact (next lines).error stream fault rest within failed
    · intro stream frame middle met ih within
      exact ih ((next lines).ok stream _ middle within met)

theorem perform {call : Call} (natural : ∀ count, call = .skip count → 0 ≤ count) :
    Walks lines (perform call) := by
  cases call with
  | next => exact (next lines).bind fun found => .pure _
  | forward => exact (forward lines).bind fun found => .pure _
  | list => exact (drain lines).bind fun found => .pure _
  | skip count =>
    have walks := forwardUpTo lines count.toNat
    rw [← skip_of_natural (natural count rfl)] at walks
    exact walks.bind fun found => .pure _

end Walks

theorem within_after {stream : FrameStream} {lines : List Line}
    (within : stream.cursor.Within lines) (calls : List Call) :
    (stream.after calls).cursor.Within lines := by
  refine @after_induction stream (fun stream => stream.cursor.Within lines) ?_ within calls
  intro stream call within natural
  have walks := Walks.perform lines natural
  constructor
  · intro answer rest done
    exact walks.ok stream answer rest within done
  · intro fault rest failed
    exact (walks.error stream fault rest within failed).1

section Stopped

variable {stream : FrameStream} {cause : FormatFault}

theorem takeFrame_stopped {α : Type} (stopped : stream.stoppedBy = some cause)
    (reading : Reading α) : takeFrame reading stream = .error (.format cause) stream := by
  rw [takeFrame_eq, stopped]

theorem next_stopped (stopped : stream.stoppedBy = some cause) :
    next stream = .error (.format cause) stream := by
  rw [next_eq, takeFrame_stopped stopped]

theorem forward_stopped (stopped : stream.stoppedBy = some cause) :
    forward stream = .error (.format cause) stream := by
  rw [forward_eq, takeFrame_stopped stopped]

theorem drain_stopped (stopped : stream.stoppedBy = some cause) :
    drain stream = .error (.format cause) stream := by
  rw [drain_eq, next_stopped stopped]

/-- Only a skip of no frames has an answer. -/
theorem perform_stopped (stopped : stream.stoppedBy = some cause) {call : Call}
    (natural : ∀ count, call = .skip count → 0 ≤ count) :
    perform call stream = .ok (.skipped 0) stream ∨
      perform call stream = .error (.format cause) stream := by
  cases call with
  | next => exact .inr (bind_of_error (next_stopped stopped) _)
  | forward => exact .inr (bind_of_error (forward_stopped stopped) _)
  | list => exact .inr (bind_of_error (drain_stopped stopped) _)
  | skip count =>
    rw [perform, skip_of_natural (natural count rfl)]
    cases count.toNat with
    | zero => exact .inl rfl
    | succ more =>
      have failed : FrameStream.forwardUpTo (more + 1) stream = .error (.format cause) stream :=
        bind_of_error (forward_stopped stopped) _
      exact .inr (bind_of_error failed _)

/-- No call moves a stream that was stopped. -/
theorem after_stopped (stopped : stream.stoppedBy = some cause) (calls : List Call) :
    stream.after calls = stream := by
  refine @after_induction stream (fun other => other = stream) ?_ rfl calls
  rintro other call rfl natural
  constructor
  · intro answer rest done
    rcases perform_stopped stopped natural with answered | failed
    · cases answered.symm.trans done
      rfl
    · cases failed.symm.trans done
  · intro fault rest failed
    rcases perform_stopped stopped natural with answered | again
    · cases answered.symm.trans failed
    · cases again.symm.trans failed
      rfl

end Stopped

/-- The stream is over: it has no more frames, and every later call that asks for one meets the
same fault. -/
def KeptBy (stream : FrameStream) (fault : Fault) : Prop :=
  stream.isExhausted = true ∧ ∀ later : List Call,
    (∃ rest, next (stream.after later) = .error fault rest) ∧
      ∃ rest, forward (stream.after later) = .error fault rest

/-- A call that fails ends its stream with the fault, unless the fault is of a value. -/
theorem kept_unless_ofValue (text : String) (earlier : List Call) {call : Call}
    (natural : ∀ count, call = .skip count → 0 ≤ count) {fault : Fault} {rest : FrameStream}
    (failed : perform call ((ofText text).after earlier) = .error fault rest) :
    rest.KeptBy fault ↔ ¬ fault.OfValue := by
  have within := @within_after (ofText text) _ (LineCursor.within_ofText text) earlier
  obtain ⟨-, left⟩ := (Walks.perform _ natural).error _ fault rest within failed
  rcases left with ⟨cause, rfl, stopped⟩ | ⟨ofValue, unended⟩
  · refine ⟨fun _ => Fault.OfValue.not_format, fun _ => ⟨?_, ?_⟩⟩
    · simp [isExhausted, stopped]
    · intro later
      rw [after_stopped stopped]
      exact ⟨⟨rest, next_stopped stopped⟩, ⟨rest, forward_stopped stopped⟩⟩
  · constructor
    · rintro ⟨ended, -⟩
      rw [unended] at ended
      cases ended
    · intro other
      exact absurd ofValue other

/-- A frame that is cut off is met again by every call. -/
theorem kept_unless_ofValue_truncated :
    ∃ rest, perform .next ((ofText "cut\n").after [.skip 0]) =
        .error (.format ⟨.endOfInput "prebox header", some 2⟩) rest ∧
      (rest.KeptBy (.format ⟨.endOfInput "prebox header", some 2⟩) ↔
        ¬ (Fault.format ⟨.endOfInput "prebox header", some 2⟩).OfValue) := by
  have failed : perform .next ((ofText "cut\n").after [.skip 0]) =
      .error (.format ⟨.endOfInput "prebox header", some 2⟩)
        ⟨⟨[], .clean, [], 1, 1⟩, some ⟨.endOfInput "prebox header", some 2⟩,
          false, false, 0, 0⟩ := by
    decide +kernel
  exact ⟨_, failed, kept_unless_ofValue "cut\n" [.skip 0] (by simp) failed⟩

/-- The first length is infinity spelled without a dot on its i. The lines after it make up a
frame, though none begins there. -/
def misspeltText : String :=
  "x\ny\nınf 1 1\na\nb\n1 1 1\n90 90 90\nc\nd\n0\n\n\n"

/-- The frame that those lines make up. -/
def innerFrame : Frame where
  preBox := ⟨⟨"a", rfl⟩, ⟨"b", rfl⟩⟩
  cell := ⟨⟨.one, .one, .one⟩, by decide +kernel⟩
  angles := ⟨.ofRatio false 90 1, .ofRatio false 90 1, .ofRatio false 90 1⟩
  postBox := ⟨⟨"c", rfl⟩, ⟨"d", rfl⟩⟩
  atoms := []
  massesAgree := rfl

theorem next_resumes_inside_a_frame :
    ∃ rest last, perform .next (ofText misspeltText) =
        .error (.value (.notNumeral "ınf")) rest ∧
      ¬ rest.KeptBy (.value (.notNumeral "ınf")) ∧ next rest = .ok (some innerFrame) last := by
  have failed : perform .next (ofText misspeltText) = .error (.value (.notNumeral "ınf"))
      ⟨⟨(Text.rawLines misspeltText.toList).drop 3, .clean, [], 3, 3⟩,
        none, false, false, 0, 0⟩ := by
    decide +kernel
  have resumed : next ⟨⟨(Text.rawLines misspeltText.toList).drop 3, .clean, [], 3, 3⟩,
        none, false, false, 0, 0⟩ =
      .ok (some innerFrame) ⟨⟨[], .clean, [], 12, 12⟩, none, false, false, 1, 0⟩ := by
    decide +kernel
  refine ⟨_, _, failed, ?_, resumed⟩
  rintro ⟨-, same⟩
  obtain ⟨⟨_, kept⟩, -⟩ := same []
  cases resumed.symm.trans kept

section Running

variable {stream rest : FrameStream} {lines : List Line} {fault : Fault}

theorem located_of_takeFrame {α : Type} {property : α → Prop} {reading : Reading α}
    (reads : Reads lines property reading) (unstopped : stream.stoppedBy = none)
    (within : stream.cursor.Within lines) (failed : takeFrame reading stream = .error fault rest) :
    fault.Located lines := by
  rcases takeFrame_error_cases within failed with
    ⟨cause, stopped, -⟩ | ⟨-, -, cursor, after, inside, read, -⟩
  · cases unstopped.symm.trans stopped
  · exact (reads.error cursor fault after inside read).2

theorem located_of_next (unstopped : stream.stoppedBy = none)
    (within : stream.cursor.Within lines) (failed : next stream = .error fault rest) :
    fault.Located lines := by
  rw [next_eq] at failed
  split at failed
  next early after taken =>
    cases failed
    exact located_of_takeFrame (Frame.reads_read lines) unstopped within taken
  next => cases failed
  next => cases failed

/-- A stream that gave frames until now was not stopped. -/
theorem located_of_drain (unstopped : stream.stoppedBy = none)
    (within : stream.cursor.Within lines) (failed : drain stream = .error fault rest) :
    fault.Located lines := by
  refine @drain_error_induction fault rest (fun stream => stream.stoppedBy = none →
    stream.cursor.Within lines → fault.Located lines) ?_ ?_ stream failed unstopped within
  · intro stream failed unstopped within
    exact located_of_next unstopped within failed
  · intro stream frame middle met ih unstopped within
    have goesOn : middle.stoppedBy = none := by
      obtain ⟨_, taken, rfl⟩ := next_eq_some_iff.1 met
      obtain ⟨-, -, _, _, -, -, rfl⟩ := takeFrame_eq_some_iff.1 taken
      exact unstopped
    exact ih goesOn ((Walks.next lines).ok stream _ middle within met)

end Running

end FrameStream

theorem FormatCause.category_ne_format (cause : FormatCause) : cause.category ≠ .format := by
  cases cause <;> simp [FormatCause.category]

namespace Document

/-- A text is read as frames or leads to a fault. The fault is of the format and names one of the
lines or the line after them, or it is of a value and goes back to a field or a header. -/
theorem frames_or_fault (text : String) :
    (∃ found, frames text = .ok found) ∨
      (∃ cause line, frames text = .error (.format ⟨cause, some line⟩) ∧
        cause.category ≠ .format ∧ 1 ≤ line ∧ line ≤ (rawLines text.toList).length + 1) ∨
      ∃ fault, frames text = .error fault ∧
        fault.TracedTo ((rawLines text.toList).map stripTerminator) := by
  unfold frames
  cases drained : (FrameStream.ofText text).drain with
  | ok found rest => exact .inl ⟨found, rfl⟩
  | error fault rest =>
    have located := FrameStream.located_of_drain rfl (LineCursor.within_ofText text) drained
    rcases located with ⟨cause, line, rfl, positive, bounded⟩ | traced
    · rw [List.length_map] at bounded
      exact .inr (.inl ⟨cause, line, rfl, cause.category_ne_format, positive, bounded⟩)
    · exact .inr (.inr ⟨fault, rfl, traced⟩)

/-- A fault of the last kind names no line. -/
theorem frames_misspeltText :
    frames FrameStream.misspeltText = .error (.value (.notNumeral "ınf")) := by
  decide +kernel

end Document

end Atomistic
