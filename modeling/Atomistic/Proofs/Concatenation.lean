import Atomistic.Proofs.FrameRecognition
import Atomistic.Proofs.Relocation
import Atomistic.Proofs.StreamFaults

/-! Documents one after the other. Nothing marks where a frame ends, and the test for the end of
the input looks ahead over blank lines, which may just as well begin the next frame. Still the
frames of two documents that stand together are those of the one and then those of the other. -/

namespace Atomistic

open Text

namespace FrameStream

/-- Where the frames of some lines take all of these lines, the same frames come first when more
lines follow, and what comes after them is what these lines give. -/
theorem Running.drain_append {frames : List Frame} {stream other last : FrameStream} {taken : Nat}
    {left more : List Line} (running : stream.Running taken left)
    (drained : stream.drain = .ok frames last)
    (whole : last.cursor.lineNumber = taken + left.length)
    (beside : other.Running taken (left ++ more)) :
    ∃ middle : FrameStream, middle.Running (taken + left.length) more ∧
      other.drain =
        match middle.drain with
        | .ok others last => .ok (frames ++ others) last
        | .error fault last => .error fault last := by
  induction frames generalizing stream other taken left with
  | nil =>
    obtain ⟨-, ⟨ended, -⟩ | ⟨-, cursor, looked, rfl⟩⟩ :=
      takeFrame_eq_none_iff.1 (next_eq_none_iff.1 (drain_eq_ok_iff.1 drained))
    · cases ended.symm.trans running.unended
    · obtain ⟨again, looked', shows⟩ := running.shows.atEnd
      injection looked'.symm.trans looked with _ same
      subst same
      -- no frame is left, so the line read last was the last of them all
      have none : left.length = 0 := by
        have number : again.lineNumber = _ := whole
        rw [shows.lineNumber] at number
        omega
      obtain rfl := List.length_eq_zero_iff.1 none
      refine ⟨other, beside, ?_⟩
      cases other.drain <;> rfl
  | cons frame later ih =>
    obtain ⟨_, met, drained⟩ := drain_eq_ok_iff.1 drained
    obtain ⟨rest, gone, rfl⟩ := next_eq_some_iff.1 met
    obtain ⟨content, lines, behind, rfl, spelled, goesOn⟩ :=
      running.takeFrame_recognised Frame.recognises_read gone
    rw [List.append_assoc] at beside
    -- the look ahead sees further now, but it saw a line that is not blank before
    have contentToo : (lines ++ (behind ++ more)).all isBlankLine = false := by
      rw [← List.append_assoc, List.all_append, content, Bool.false_and]
    obtain ⟨beyond, met', runs⟩ :=
      beside.next_takes_of_content contentToo (Frame.recognises_read.takes spelled)
    rw [List.length_append, ← Nat.add_assoc] at whole ⊢
    have after : rest.countRead.Running (taken + lines.length) behind :=
      ⟨goesOn.unstopped, goesOn.unended, goesOn.shows⟩
    obtain ⟨middle, runs, joined⟩ := ih after drained whole runs
    refine ⟨middle, runs, ?_⟩
    rw [drain_eq, met']
    dsimp only
    rw [joined]
    cases middle.drain <;> rfl

end FrameStream

namespace Document

/-- The number of the last line of the last frame of a text, or zero if it has no frame. -/
def lastLine (text : String) : Nat :=
  (stateAfter (FrameStream.ofText text).drain).cursor.lineNumber

variable {first : String} {given : List Frame}

theorem frames_append_eq (ended : first = "" ∨ first.toList.getLast? = some '\n')
    (read : Document.frames first = .ok given)
    (whole : lastLine first = (rawLines first.toList).length) (second : String) :
    Document.frames (first ++ second) =
      match Document.frames second with
      | .ok others => .ok (given ++ others)
      | .error fault => .error (fault.movedDown (rawLines first.toList).length) := by
  obtain ⟨last, drained⟩ := frames_eq_ok_iff.1 read
  have number : last.cursor.lineNumber =
      0 + ((rawLines first.toList).map stripTerminator).length := by
    rw [lastLine, drained] at whole
    rw [List.length_map, Nat.zero_add]
    exact whole
  have together := FrameStream.running_ofText (first ++ second)
  rw [String.toList_append, rawLines_append (ended.imp_left (congrArg String.toList)),
    List.map_append] at together
  obtain ⟨middle, runs, joined⟩ :=
    (FrameStream.running_ofText first).drain_append drained number together
  rw [List.length_map] at runs
  have alone := FrameStream.running_ofText second
  have above : FrameStream.Above (rawLines first.toList).length (FrameStream.ofText second)
      middle :=
    ⟨alone.unstopped, runs.unstopped, runs.unended.trans alone.unended.symm,
      0, _, alone.shows, runs.shows⟩
  have moved := FrameStream.relocates_drain _ _ _ above
  unfold Document.frames
  rw [joined]
  generalize (FrameStream.ofText second).drain = result at moved ⊢
  generalize middle.drain = beyond at moved ⊢
  cases moved with
  | ok kept => rfl
  | error => rfl

/-- The frames of two texts one after the other are the frames of the one and then those of the
other, if the first ends where its last frame does. A fault of the second text is then met as well,
so many lines further down, and blank lines alone add nothing. -/
theorem frames_append (ended : first = "" ∨ first.toList.getLast? = some '\n')
    (read : Document.frames first = .ok given)
    (whole : lastLine first = (rawLines first.toList).length) (second : String) :
    (∀ others, Document.frames second = .ok others →
      Document.frames (first ++ second) = .ok (given ++ others)) ∧
    (∀ fault, Document.frames second = .error (.format fault) →
      ∃ line, fault.line = some line ∧ Document.frames (first ++ second) =
        .error (.format ⟨fault.cause, some (line + (rawLines first.toList).length)⟩)) ∧
    (∀ fault, Document.frames second = .error fault → (∀ format, fault ≠ .format format) →
      Document.frames (first ++ second) = .error fault) ∧
    (second.toList.all isBlank = true → Document.frames (first ++ second) = .ok given) := by
  have joined := frames_append_eq ended read whole second
  refine ⟨?_, ?_, ?_, ?_⟩
  · intro others found
    rw [joined, found]
  · intro fault found
    obtain ⟨rest, failed⟩ := frames_eq_error_iff.1 found
    rcases FrameStream.located_of_drain rfl (LineCursor.within_ofText second) failed with
      ⟨cause, line, same, -⟩ | traced
    · cases same
      refine ⟨line, rfl, ?_⟩
      rw [joined, found]
      rfl
    · exact absurd traced.ofValue Fault.OfValue.not_format
  · intro fault found other
    rw [joined, found]
    dsimp only
    rw [Fault.movedDown_of_not_format other]
  · intro blank
    obtain ⟨last, ends⟩ := (FrameStream.running_ofText second).next_blank (by
      rw [all_isBlankLine_stripTerminator]
      exact isBlankLine_of_mem_rawLines blank)
    have none : Document.frames second = .ok [] :=
      frames_eq_ok_iff.2 ⟨last, FrameStream.drain_of_none ends⟩
    rw [joined, none]
    dsimp only
    rw [List.append_nil]

/-- A frame without atoms. Its last two lines are blank, and still part of it. -/
def blankEndText : String :=
  "a\nb\n1 1 1\n90 90 90\nc\nd\n0\n\n\n"

theorem frames_append_blankEnd :
    Document.frames blankEndText = .ok [FrameStream.innerFrame] ∧
      lastLine blankEndText = (rawLines blankEndText.toList).length ∧
      Document.frames (blankEndText ++ "cut\n") =
        .error (.format ⟨.endOfInput "prebox header", some 11⟩) := by
  have read : Document.frames blankEndText = .ok [FrameStream.innerFrame] :=
    @frames_of_drainWithin 2 _ _ (by decide +kernel)
  have whole : lastLine blankEndText = (rawLines blankEndText.toList).length := by
    decide +kernel
  have cut : Document.frames "cut\n" =
      .error (.format ⟨.endOfInput "prebox header", some 2⟩) := by
    decide +kernel
  obtain ⟨-, faults, -, -⟩ := frames_append (.inr (by decide +kernel)) read whole "cut\n"
  obtain ⟨line, same, failed⟩ := faults _ cut
  cases same
  exact ⟨read, whole, failed⟩

end Document

end Atomistic
