import Atomistic.Command.Convert
import Atomistic.Proofs.FileWriting
import Atomistic.Proofs.FrameExtent

/-! Which frames a copy keeps. The stream is a row of pieces with a position in it: reading the
next frame and passing over it both move on by one piece. What is left out is only passed over, so
nothing but its extent matters. -/

namespace Atomistic

open Text

namespace FrameStream

section Ahead

/-- No fault will come up as long as frames are passed over, and these pieces are left. -/
structure Ahead (stream : FrameStream) (pieces : List (List Line)) : Prop where
  unstopped : stream.stoppedBy = none
  pieces : (stream.ended = true ∧ pieces = []) ∨ (stream.ended = false ∧ ∃ taken lines,
    stream.cursor.Shows taken (lines.map stripTerminator) ∧ SplitsInto lines pieces)

variable {α : Type} {stream : FrameStream} {piece lines : List Line}
  {pieces later : List (List Line)}

theorem ahead_ofLines (splits : SplitsInto lines pieces) :
    (ofCursor (.ofLines lines)).Ahead pieces :=
  ⟨rfl, .inr ⟨rfl, 0, lines, LineCursor.shows_ofLines lines, splits⟩⟩

theorem Ahead.takeFrame_nil (ahead : stream.Ahead []) (reading : Reading α) :
    ∃ rest, takeFrame reading stream = .ok none rest ∧ rest.Ahead [] := by
  obtain ⟨unstopped, ⟨ended, -⟩ | ⟨unended, taken, lines, shows, splits⟩⟩ := ahead
  · exact ⟨stream, takeFrame_eq_none_iff.2 ⟨unstopped, .inl ⟨ended, rfl⟩⟩,
      unstopped, .inl ⟨ended, rfl⟩⟩
  · cases splits with
    | blank blank =>
      rw [← all_isBlankLine_stripTerminator] at blank
      have running : stream.Running taken (lines.map stripTerminator) :=
        ⟨unstopped, unended, shows⟩
      obtain ⟨cursor, ended, -⟩ := running.takeFrame_blank blank reading
      exact ⟨_, ended, unstopped, .inl ⟨rfl, rfl⟩⟩

/-- Whatever takes the lines of a piece leads to the piece after it. -/
theorem Ahead.takeFrame_cons (ahead : stream.Ahead (piece :: later)) {reading : Reading α}
    {value : α} (takes : Frame.Spans piece → Takes reading (piece.map stripTerminator) value) :
    ∃ cursor, takeFrame reading stream = .ok (some value) { stream with cursor } ∧
      Ahead { stream with cursor } later := by
  obtain ⟨unstopped, ⟨-, none⟩ | ⟨unended, taken, lines, shows, splits⟩⟩ := ahead
  · cases none
  · cases splits with
    | @frame _ more _ after passed left others =>
      have spans := Frame.spans_of_skip passed left
      rw [List.map_append] at shows
      have running : stream.Running taken _ := ⟨unstopped, unended, shows⟩
      have content : (piece.map stripTerminator ++ more.map stripTerminator).all isBlankLine =
          false := by
        rw [List.all_append, Frame.HasExtent.not_blank spans, Bool.false_and]
      obtain ⟨cursor, met, shows⟩ := running.takeFrame_takes content (takes spans)
      exact ⟨cursor, met, unstopped, .inr ⟨unended, _, more, shows, others⟩⟩

theorem Ahead.forward (ahead : stream.Ahead pieces) :
    ∃ rest, forward stream = .ok (decide (0 < pieces.length)) rest ∧
      rest.Ahead (pieces.drop 1) := by
  cases pieces with
  | nil =>
    obtain ⟨rest, ended, after⟩ := ahead.takeFrame_nil Frame.skip
    refine ⟨rest, ?_, after⟩
    rw [forward_eq, ended]
    rfl
  | cons piece later =>
    obtain ⟨cursor, passed, after⟩ := ahead.takeFrame_cons Frame.Spans.takes
    refine ⟨countSkipped { stream with cursor }, ?_, after.unstopped, after.pieces⟩
    rw [forward_eq, passed]
    simp

theorem Ahead.next_nil (ahead : stream.Ahead []) : ∃ rest, next stream = .ok none rest := by
  obtain ⟨rest, ended, -⟩ := ahead.takeFrame_nil Frame.read
  exact ⟨rest, next_eq_none_iff.2 ended⟩

theorem Ahead.next_cons (ahead : stream.Ahead (piece :: later)) {frame : Frame}
    (reads : ReadsAs piece frame) :
    ∃ rest, next stream = .ok (some frame) rest ∧ rest.Ahead later := by
  obtain ⟨last, read⟩ := reads
  obtain ⟨cursor, met, after⟩ := ahead.takeFrame_cons fun spans => spans.takes_read read
  exact ⟨_, next_eq_some_iff.2 ⟨_, met, rfl⟩, after.unstopped, after.pieces⟩

end Ahead

end FrameStream

section Selection

/-- The frames that are read from every one of so many pieces, when some are left out in
front. -/
def Selects (skip every : Nat) (pieces : List (List Line)) (frames : List Frame) : Prop :=
  ∀ index, Option.Rel ReadsAs pieces[skip + index * every]? frames[index]?

variable {skip every : Nat} {piece : List Line} {pieces later : List (List Line)}
  {frame : Frame} {frames others : List Frame}

theorem Selects.drop (selects : Selects skip every pieces frames) :
    Selects 0 every (pieces.drop skip) frames := by
  intro index
  rw [List.getElem?_drop, Nat.zero_add]
  exact selects index

theorem Selects.nil (selects : Selects skip every [] frames) : frames = [] := by
  have first := selects 0
  cases frames with
  | nil => rfl
  | cons frame others => cases first

theorem Selects.cons (selects : Selects 0 (every + 1) (piece :: later) frames) :
    ∃ frame others, frames = frame :: others ∧ ReadsAs piece frame ∧
      Selects 0 (every + 1) (later.drop every) others := by
  have first := selects 0
  rw [Nat.zero_mul] at first
  cases frames with
  | nil => cases first
  | cons frame others =>
    cases first with
    | some reads =>
      refine ⟨frame, others, rfl, reads, fun index => ?_⟩
      have next := selects (index + 1)
      have place : 0 + (index + 1) * (every + 1) = every + (0 + index * (every + 1)) + 1 := by
        rw [Nat.succ_mul]
        omega
      rw [place, List.getElem?_cons_succ, List.getElem?_cons_succ] at next
      rwa [List.getElem?_drop]

/-- What was read can be written, and is in normal form already. -/
theorem Selects.readBack (selects : Selects skip every pieces frames) :
    ∀ frame ∈ frames, frame.Writable ∧ frame.grouped = frame := by
  intro frame member
  obtain ⟨index, here⟩ := List.mem_iff_getElem?.1 member
  have reads := selects index
  rw [here] at reads
  generalize pieces[skip + index * every]? = found at reads
  cases reads with
  | some reads =>
    obtain ⟨rest, read⟩ := reads
    obtain ⟨blocks, grouped⟩ := Frame.grouped_of_read read
    exact ⟨grouped.writable, grouped.grouped_eq⟩

/-- Every piece of a row is selected when none is left out. -/
theorem selects_all (reads : List.Forall₂ ReadsAs pieces frames) : Selects 0 1 pieces frames := by
  intro index
  rw [Nat.zero_add, Nat.mul_one]
  induction reads generalizing index with
  | nil => exact .none
  | cons here others ih =>
    cases index with
    | zero => exact .some here
    | succ index => exact ih index

end Selection

namespace Command

open FrameWriter

variable {skip every : Nat} {lines : List Line} {pieces left : List (List Line)}
  {frames : List Frame}

theorem appendFrame_of_accepts {writer : FrameWriter} {frame : Frame}
    (opened : writer.closed = false) (accepted : accepts writer.encoding? frame = true) :
    ∃ text, frame.write = .ok text ∧
      appendFrame (.proper frame) writer = .ok () (writer.extended [frame] text) := by
  obtain ⟨text, written, done⟩ := appendOne_of_accepts accepted
  exact ⟨text, written, (append_of_open opened _).trans (bind_of_ok done _)⟩

/-- The copy as it goes on when so many frames are to be passed over first. -/
def copyBehind (passing gap : Nat) (stream : FrameStream) (writer : FrameWriter) : Copy :=
  match FrameStream.forwardUpTo gap stream with
  | .error fault rest => ⟨some fault, rest, writer⟩
  | .ok passed rest =>
    if passed < gap then ⟨none, rest, writer⟩ else copySelected passing rest writer

theorem copySelected_eq (passing : Nat) (stream : FrameStream) (writer : FrameWriter) :
    copySelected passing stream writer =
      match stream.next with
      | .error fault rest => ⟨some fault, rest, writer⟩
      | .ok none rest => ⟨none, rest, writer⟩
      | .ok (some frame) rest =>
        match appendFrame (.proper frame) writer with
        | .error fault writer => ⟨some fault, rest, writer⟩
        | .ok _ writer => copyBehind passing passing rest writer := by
  rw [copySelected]
  split
  next failed => rw [failed]
  next ended => rw [ended]
  next frame rest taken =>
    rw [taken]
    dsimp only
    cases appendFrame (.proper frame) writer with
    | error fault longer => rfl
    | ok _ longer =>
      dsimp only [copyBehind]
      split
      next failed => rw [failed]
      next moved => rw [moved]

theorem copySelected_of_none {passing : Nat} {stream rest : FrameStream}
    (ended : stream.next = .ok none rest) (writer : FrameWriter) :
    copySelected passing stream writer = ⟨none, rest, writer⟩ := by
  rw [copySelected_eq, ended]

theorem copySelected_of_some {passing : Nat} {stream middle : FrameStream}
    {writer longer : FrameWriter} {frame : Frame} (taken : stream.next = .ok (some frame) middle)
    (appended : appendFrame (.proper frame) writer = .ok () longer) :
    copySelected passing stream writer = copyBehind passing passing middle longer := by
  rw [copySelected_eq, taken]
  dsimp only
  rw [appended]

/-- From a piece on, one of every so many frames is copied, up to the last piece. -/
theorem copySelected_of_selects {passing : Nat} {stream : FrameStream} {writer : FrameWriter}
    (ahead : stream.Ahead left) (selects : Selects 0 (passing + 1) left frames)
    (opened : writer.closed = false) (encoding : writer.encoding? = some .utf8) :
    ∃ text last, Document.write frames = .ok text ∧
      copySelected passing stream writer = ⟨none, last, writer.extended frames text⟩ := by
  induction frames generalizing stream writer left with
  | nil =>
    cases left with
    | cons piece later =>
      obtain ⟨frame, others, none, -⟩ := selects.cons
      cases none
    | nil =>
      obtain ⟨rest, ended⟩ := ahead.next_nil
      exact ⟨"", rest, rfl, by rw [copySelected_of_none ended, extended_nil]⟩
  | cons frame others ih =>
    cases left with
    | nil => cases selects.nil
    | cons piece later =>
      obtain ⟨_, _, ⟨⟩, reads, selectsLater⟩ := selects.cons
      obtain ⟨middle, taken, aheadMiddle⟩ := ahead.next_cons reads
      obtain ⟨writable, -⟩ := selects.readBack frame List.mem_cons_self
      obtain ⟨rows, writes, -⟩ := Frame.exists_lines writable
      have accepted : accepts writer.encoding? frame = true := by
        rw [encoding]
        exact accepts_utf8_iff.2 ⟨_, Frame.write_eq_ok writes⟩
      obtain ⟨first, written, appended⟩ := appendFrame_of_accepts opened accepted
      obtain ⟨rest, moved, aheadRest⟩ :=
        FrameStream.forwardUpTo_of_forward FrameStream.Ahead.forward aheadMiddle passing
      rw [copySelected_of_some taken appended, copyBehind, moved]
      dsimp only
      split
      next short =>
        -- fewer pieces were left than are to be passed over, so none is selected any more
        have done : later.drop passing = [] := List.drop_eq_nil_of_le (by omega)
        rw [done] at selectsLater
        obtain rfl := selectsLater.nil
        exact ⟨first ++ "", rest, Document.write_cons written rfl, by rw [String.append_empty]⟩
      next =>
        obtain ⟨text, last, joined, copied⟩ :=
          @ih _ rest (writer.extended [frame] first) aheadRest selectsLater opened encoding
        refine ⟨first ++ text, last, Document.write_cons written joined, ?_⟩
        rw [copied, extended_cons]

/-- A copy of frames in lines goes through, and its writer holds the frames that are selected. -/
theorem copyFrames_of_selects (splits : SplitsInto lines pieces) (positive : 0 < every)
    (selects : Selects skip every pieces frames) (name : String) :
    ∃ text last, Document.write frames = .ok text ∧
      copyFrames skip every (.ofCursor (.ofLines lines)) (.ofName name (some .utf8)) =
        ⟨none, last, (FrameWriter.ofName name (some .utf8)).extended frames text⟩ := by
  obtain ⟨passing, rfl⟩ := Nat.exists_eq_add_of_lt positive
  rw [Nat.zero_add] at selects ⊢
  obtain ⟨rest, moved, ahead⟩ := FrameStream.forwardUpTo_of_forward FrameStream.Ahead.forward
    (FrameStream.ahead_ofLines splits) skip
  unfold copyFrames
  rw [moved]
  exact copySelected_of_selects ahead selects.drop rfl rfl

end Command

end Atomistic
