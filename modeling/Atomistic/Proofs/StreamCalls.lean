import Atomistic.Proofs.NormalForm

/-! Calls on a stream of frames, one after the other. A stream on a text without faults is a
list of frames with a position in it, and every call moves along the list by as many frames
as it counts. -/

namespace Atomistic

/-- The frames that are read one by one from here, up to the end of the input. -/
inductive LineCursor.Yields : LineCursor → List Frame → Prop where
  | done {cursor rest : LineCursor} (ended : cursor.atEnd = .ok true rest) : Yields cursor []
  | frame {cursor middle rest : LineCursor} {frame : Frame} {later : List Frame}
      (more : cursor.atEnd = .ok false middle) (read : Frame.read middle = .ok frame rest)
      (others : Yields rest later) : Yields cursor (frame :: later)

namespace FrameStream

section Leaves

/-- No fault will come up, and these frames are left. -/
structure Leaves (stream : FrameStream) (left : List Frame) : Prop where
  unstopped : stream.stoppedBy = none
  frames : (stream.ended = true ∧ left = []) ∨ (stream.ended = false ∧ stream.cursor.Yields left)

theorem leaves_of_drain {stream last : FrameStream} {frames : List Frame}
    (drained : stream.drain = .ok frames last) : stream.Leaves frames := by
  induction frames generalizing stream with
  | nil =>
    have none := next_eq_none_iff.1 (drain_eq_ok_iff.1 drained)
    obtain ⟨unstopped, ended | ⟨unended, cursor, looked, -⟩⟩ := takeFrame_eq_none_iff.1 none
    · exact ⟨unstopped, .inl ⟨ended.1, rfl⟩⟩
    · exact ⟨unstopped, .inr ⟨unended, .done looked⟩⟩
  | cons frame later ih =>
    obtain ⟨rest, met, drained⟩ := drain_eq_ok_iff.1 drained
    obtain ⟨middle, taken, rfl⟩ := next_eq_some_iff.1 met
    obtain ⟨unstopped, unended, start, cursor, looked, read, rfl⟩ :=
      takeFrame_eq_some_iff.1 taken
    refine ⟨unstopped, .inr ⟨unended, .frame looked read ?_⟩⟩
    obtain ⟨-, ended | yields⟩ := ih drained
    · exact absurd (ended.1.symm.trans unended) (by decide)
    · exact yields.2

variable {stream : FrameStream}

theorem Leaves.takeFrame_nil {α : Type} (leaves : stream.Leaves []) (reading : Reading α) :
    ∃ rest, takeFrame reading stream = .ok none rest ∧ rest.Leaves [] ∧
      rest.framesRead = stream.framesRead ∧ rest.framesSkipped = stream.framesSkipped := by
  obtain ⟨unstopped, ⟨ended, -⟩ | ⟨unended, yields⟩⟩ := leaves
  · refine ⟨stream, takeFrame_eq_none_iff.2 ⟨unstopped, .inl ⟨ended, rfl⟩⟩, ?_, rfl, rfl⟩
    exact ⟨unstopped, .inl ⟨ended, rfl⟩⟩
  · cases yields with
    | @done _ cursor looked =>
      refine ⟨_, takeFrame_eq_none_iff.2 ⟨unstopped, .inr ⟨unended, cursor, looked, rfl⟩⟩, ?_,
        rfl, rfl⟩
      exact ⟨unstopped, .inl ⟨rfl, rfl⟩⟩

/-- Reading a frame and passing over it both lead to the frames after it. -/
theorem Leaves.takeFrame_cons {frame : Frame} {later : List Frame}
    (leaves : stream.Leaves (frame :: later)) :
    ∃ cursor, takeFrame Frame.read stream = .ok (some frame) { stream with cursor } ∧
      takeFrame Frame.skip stream = .ok (some ()) { stream with cursor } ∧
      Leaves { stream with cursor } later := by
  obtain ⟨unstopped, ⟨-, none⟩ | ⟨unended, yields⟩⟩ := leaves
  · cases none
  · cases yields with
    | @frame _ start cursor _ _ looked read others =>
      have passed := Frame.skip_of_read read
      refine ⟨cursor, ?_, ?_, ⟨unstopped, .inr ⟨unended, others⟩⟩⟩
      · exact takeFrame_eq_some_iff.2 ⟨unstopped, unended, start, cursor, looked, read, rfl⟩
      · exact takeFrame_eq_some_iff.2 ⟨unstopped, unended, start, cursor, looked, passed, rfl⟩

private theorem length_head? (left : List Frame) :
    left.head?.toList.length = min 1 left.length := by
  cases left with
  | nil => rfl
  | cons frame later => simp

theorem Leaves.next {left : List Frame} (leaves : stream.Leaves left) :
    ∃ rest, next stream = .ok left.head? rest ∧ rest.Leaves (left.drop 1) ∧
      rest.framesRead = stream.framesRead + min 1 left.length ∧
      rest.framesSkipped = stream.framesSkipped := by
  cases left with
  | nil =>
    obtain ⟨rest, taken, after⟩ := leaves.takeFrame_nil Frame.read
    exact ⟨rest, next_eq_none_iff.2 taken, after⟩
  | cons frame later =>
    obtain ⟨cursor, read, -, left⟩ := leaves.takeFrame_cons
    refine ⟨_, next_eq_some_iff.2 ⟨_, read, rfl⟩, ⟨left.unstopped, left.frames⟩, ?_, rfl⟩
    simp [countRead]

theorem Leaves.forward {left : List Frame} (leaves : stream.Leaves left) :
    ∃ rest, forward stream = .ok (decide (0 < left.length)) rest ∧ rest.Leaves (left.drop 1) ∧
      rest.framesRead = stream.framesRead ∧
      rest.framesSkipped = stream.framesSkipped + min 1 left.length := by
  cases left with
  | nil =>
    obtain ⟨rest, taken, after⟩ := leaves.takeFrame_nil Frame.skip
    refine ⟨rest, ?_, after⟩
    rw [forward_eq, taken]
    rfl
  | cons frame later =>
    obtain ⟨cursor, -, passed, left⟩ := leaves.takeFrame_cons
    refine ⟨countSkipped { stream with cursor }, ?_, ⟨left.unstopped, left.frames⟩, rfl, ?_⟩
    · rw [forward_eq, passed]
      simp
    · simp [countSkipped]

theorem Leaves.forwardUpTo {left : List Frame} (leaves : stream.Leaves left) (count : Nat) :
    ∃ rest, forwardUpTo count stream = .ok (min count left.length) rest ∧
      rest.Leaves (left.drop count) ∧ rest.framesRead = stream.framesRead ∧
      rest.framesSkipped = stream.framesSkipped + min count left.length := by
  -- each step moves one frame over to those that were passed
  let ahead (rest : FrameStream) (later : List Frame) : Prop :=
    rest.Leaves later ∧ rest.framesRead = stream.framesRead ∧
      rest.framesSkipped + later.length = stream.framesSkipped + left.length
  have step : ∀ {middle later}, ahead middle later → ∃ rest,
      FrameStream.forward middle = .ok (decide (0 < later.length)) rest ∧
        ahead rest (later.drop 1) := by
    rintro middle later ⟨leaves, read, skipped⟩
    obtain ⟨rest, done, after, readLater, skippedLater⟩ := leaves.forward
    refine ⟨rest, done, after, readLater.trans read, ?_⟩
    rw [skippedLater, List.length_drop]
    omega
  obtain ⟨rest, done, after, read, skipped⟩ := forwardUpTo_of_forward step ⟨leaves, rfl, rfl⟩ count
  refine ⟨rest, done, after, read, ?_⟩
  rw [List.length_drop] at skipped
  omega

theorem Leaves.drain {left : List Frame} (leaves : stream.Leaves left) :
    ∃ rest, stream.drain = .ok left rest ∧ rest.Leaves [] ∧
      rest.framesRead = stream.framesRead + left.length ∧
      rest.framesSkipped = stream.framesSkipped := by
  induction left generalizing stream with
  | nil =>
    obtain ⟨rest, done, after⟩ := leaves.next
    exact ⟨rest, drain_of_none done, after⟩
  | cons frame later ih =>
    obtain ⟨middle, done, after, read, skipped⟩ := leaves.next
    obtain ⟨rest, others, ended, readLater, skippedLater⟩ := ih after
    refine ⟨rest, drain_of_some done others, ended, ?_, by rw [skippedLater, skipped]⟩
    rw [readLater, read, List.length_cons]
    omega

end Leaves

section Calls

inductive Call where
  | next
  | forward
  | skip (count : Int)
  | list
deriving DecidableEq, Repr

inductive Answer where
  /-- The end of the input is answered with no frame. -/
  | frame (found : Option Frame)
  | passed (found : Bool)
  | skipped (count : Nat)
  | frames (found : List Frame)
deriving DecidableEq, Repr

def perform : Call → Streaming Answer
  | .next => return .frame (← next)
  | .forward => return .passed (← forward)
  | .skip count => return .skipped (← skip count)
  | .list => return .frames (← drain)

/-- The stream after some calls. A call that fails does not keep the next from being made. -/
def after (stream : FrameStream) : List Call → FrameStream
  | [] => stream
  | call :: later =>
    match perform call stream with
    | .ok _ rest => rest.after later
    | .error _ rest => rest.after later

/-- How many frames were read or passed over so far. -/
def position (stream : FrameStream) : Nat :=
  stream.framesRead + stream.framesSkipped

namespace Answer

def framesRead : Answer → Nat
  | frame found => found.toList.length
  | frames found => found.length
  | _ => 0

def framesSkipped : Answer → Nat
  | passed found => found.toNat
  | skipped count => count
  | _ => 0

end Answer

namespace Call

/-- What a call is answered at a position in a list of frames. -/
def answerAt (frames : List Frame) (position : Nat) : Call → Answer
  | next => .frame frames[position]?
  | forward => .passed (position < frames.length)
  | skip count => .skipped (min count.toNat (frames.length - position))
  | list => .frames (frames.drop position)

end Call

/-- A call is answered from the frames that are left, and moves past those it counts. -/
def Answers (frames : List Frame) (stream : FrameStream) (call : Call) : Prop :=
  ∃ rest, perform call stream = .ok (call.answerAt frames stream.position) rest ∧
    rest.Leaves (frames.drop rest.position) ∧
    rest.framesRead = stream.framesRead + (call.answerAt frames stream.position).framesRead ∧
    rest.framesSkipped =
      stream.framesSkipped + (call.answerAt frames stream.position).framesSkipped

variable {stream : FrameStream} {frames : List Frame}

/-- A call that counts as many frames as it has passed leaves the frames after them. -/
theorem answers_of_count {call : Call} {rest : FrameStream} (count : Nat)
    (done : perform call stream = .ok (call.answerAt frames stream.position) rest)
    (after : rest.Leaves ((frames.drop stream.position).drop count))
    (read : rest.framesRead =
      stream.framesRead + (call.answerAt frames stream.position).framesRead)
    (skipped : rest.framesSkipped =
      stream.framesSkipped + (call.answerAt frames stream.position).framesSkipped)
    (counted : (call.answerAt frames stream.position).framesRead +
        (call.answerAt frames stream.position).framesSkipped =
      min count (frames.length - stream.position)) : Answers frames stream call := by
  refine ⟨rest, done, ?_, read, skipped⟩
  have moved : rest.position =
      stream.position + min count (frames.length - stream.position) := by
    rw [← counted, position, read, skipped, position]
    omega
  have same : frames.drop rest.position = frames.drop (stream.position + count) := by
    rw [List.drop_eq_drop_iff]
    omega
  rwa [same, ← List.drop_drop]

theorem Leaves.answers_next (leaves : stream.Leaves (frames.drop stream.position)) :
    Answers frames stream .next := by
  obtain ⟨rest, done, after, read, skipped⟩ := leaves.next
  have length := length_head? (frames.drop stream.position)
  rw [← length] at read
  rw [List.head?_drop] at done read length
  rw [List.length_drop] at length
  exact answers_of_count 1 (bind_of_ok done _) after read skipped length

theorem Leaves.answers_forward (leaves : stream.Leaves (frames.drop stream.position)) :
    Answers frames stream .forward := by
  obtain ⟨rest, done, after, read, skipped⟩ := leaves.forward
  have inside : decide (0 < (frames.drop stream.position).length) =
      decide (stream.position < frames.length) := by
    rw [List.length_drop, decide_eq_decide]
    exact Nat.sub_pos_iff_lt
  have count : (decide (stream.position < frames.length)).toNat =
      min 1 (frames.length - stream.position) := by
    rw [← inside, List.length_drop]
    generalize frames.length - stream.position = left
    cases left with
    | zero => rfl
    | succ left => simp
  rw [inside] at done
  rw [List.length_drop, ← count] at skipped
  refine answers_of_count 1 (bind_of_ok done _) after read skipped ?_
  exact (Nat.zero_add _).trans count

theorem Leaves.answers_skip (leaves : stream.Leaves (frames.drop stream.position)) {count : Int}
    (natural : 0 ≤ count) : Answers frames stream (.skip count) := by
  obtain ⟨rest, done, after, read, skipped⟩ := leaves.forwardUpTo count.toNat
  rw [List.length_drop] at done skipped
  rw [← skip_of_natural natural] at done
  exact answers_of_count count.toNat (bind_of_ok done _) after read skipped (Nat.zero_add _)

theorem Leaves.answers_list (leaves : stream.Leaves (frames.drop stream.position)) :
    Answers frames stream .list := by
  obtain ⟨rest, done, after, read, skipped⟩ := leaves.drain
  have none : (frames.drop stream.position).drop frames.length = [] := by
    rw [List.drop_eq_nil_iff, List.length_drop]
    omega
  rw [← none] at after
  refine answers_of_count frames.length (bind_of_ok done _) after read skipped ?_
  simp [Call.answerAt, Answer.framesRead, Answer.framesSkipped]

theorem Leaves.answers (leaves : stream.Leaves (frames.drop stream.position)) {call : Call}
    (natural : ∀ count, call = .skip count → 0 ≤ count) : Answers frames stream call := by
  cases call with
  | next => exact leaves.answers_next
  | forward => exact leaves.answers_forward
  | skip count => exact leaves.answers_skip (natural count rfl)
  | list => exact leaves.answers_list

/-- A skip of less than nothing is refused and changes nothing. -/
theorem perform_skip_negative {count : Int} (negative : count < 0) (stream : FrameStream) :
    perform (.skip count) stream =
      .error (.value (.negativeSkip (RawValue.integer count).display)) stream := by
  have refused : FrameStream.skip count =
      throw (.value (.negativeSkip (RawValue.integer count).display)) := if_pos negative
  rw [perform, refused]
  rfl

/-- What every call keeps is kept by any row of calls. Only calls that are not refused need to
be looked at. -/
theorem after_induction {holds : FrameStream → Prop}
    (step : ∀ stream call, holds stream → (∀ count, call = .skip count → 0 ≤ count) →
      (∀ answer rest, perform call stream = .ok answer rest → holds rest) ∧
        ∀ fault rest, perform call stream = .error fault rest → holds rest)
    (start : holds stream) (calls : List Call) : holds (stream.after calls) := by
  induction calls generalizing stream with
  | nil => exact start
  | cons call later ih =>
    by_cases natural : ∀ count, call = .skip count → 0 ≤ count
    · obtain ⟨ok, error⟩ := step stream call start natural
      cases done : perform call stream with
      | ok answer rest =>
        simp only [after, done]
        exact ih (ok answer rest done)
      | error fault rest =>
        simp only [after, done]
        exact ih (error fault rest done)
    · obtain ⟨count, refused⟩ := Classical.not_forall.1 natural
      obtain ⟨rfl, negative⟩ := Classical.not_imp.1 refused
      simp only [after, perform_skip_negative (Int.not_le.1 negative)]
      exact ih start

theorem Leaves.after (leaves : stream.Leaves (frames.drop stream.position))
    (calls : List Call) :
    (stream.after calls).Leaves (frames.drop (stream.after calls).position) := by
  refine @after_induction stream (fun stream => stream.Leaves (frames.drop stream.position))
    ?_ leaves calls
  intro stream call leaves natural
  obtain ⟨last, answered, left, -⟩ := leaves.answers natural
  constructor
  · intro answer rest done
    cases answered.symm.trans done
    exact left
  · intro fault rest failed
    cases answered.symm.trans failed

theorem leaves_ofText {text : String} (parsed : Document.frames text = .ok frames) :
    (ofText text).Leaves frames := by
  obtain ⟨last, drained⟩ := Document.frames_eq_ok_iff.1 parsed
  exact leaves_of_drain drained

/-- Reading and passing over frames may be mixed in any order. Each call is answered from the
place that the frames counted so far lead to, and counts what it gives back. -/
theorem calls_follow_positions {text : String} (parsed : Document.frames text = .ok frames)
    (earlier : List Call) {call : Call} (natural : ∀ count, call = .skip count → 0 ≤ count) :
    ∃ rest, perform call ((ofText text).after earlier) =
        .ok (call.answerAt frames ((ofText text).after earlier).position) rest ∧
      rest.framesRead = ((ofText text).after earlier).framesRead +
        (call.answerAt frames ((ofText text).after earlier).position).framesRead ∧
      rest.framesSkipped = ((ofText text).after earlier).framesSkipped +
        (call.answerAt frames ((ofText text).after earlier).position).framesSkipped := by
  have start : (ofText text).Leaves (frames.drop (ofText text).position) := leaves_ofText parsed
  obtain ⟨rest, done, -, counted⟩ := (start.after earlier).answers natural
  exact ⟨rest, done, counted⟩

theorem calls_follow_positions_labelled :
    Document.frames Document.labelledText =
        .ok [Document.labelledFrame, Document.labelledFrame] ∧
      ∃ rest, perform .list ((ofText Document.labelledText).after [.forward, .skip (-1)]) =
        .ok (.frames [Document.labelledFrame]) rest := by
  have place : ((ofText Document.labelledText).after [.forward, .skip (-1)]).position = 1 := by
    decide +kernel
  obtain ⟨rest, done, -⟩ := @calls_follow_positions _ _ Document.frames_labelledText
    [.forward, .skip (-1)] .list (by simp)
  rw [place] at done
  exact ⟨Document.frames_labelledText, rest, done⟩

end Calls

end FrameStream

end Atomistic
