import Atomistic.Document
import Atomistic.Proofs.FrameExtent

/-! Texts of a single frame. The frame is read from the front of the text, and only blank lines
may come after it. These are looked at up to the first line that is not blank, but looking ahead
does not move the line number: the fault names the line behind the frame, whether that line is
blank or not. -/

namespace Atomistic

open Text LineCursor

namespace Frame

variable {text : String} {frame : Frame} {rest : LineCursor}

theorem not_blank_of_read (read : Frame.read (.ofText text) = .ok frame rest) :
    (rawLines text.toList).all isBlankLine = false := by
  obtain ⟨piece, later, cut, extent, -⟩ :=
    recognises_skip.spelled (shows_ofText text) (skip_of_read read)
  rw [← all_isBlankLine_stripTerminator, cut, List.all_append, extent.not_blank, Bool.false_and]

/-- A cursor that has looked ahead shows the same lines, so it reads the same frame. -/
theorem readOnly_of_read (read : Frame.read (.ofText text) = .ok frame rest) :
    ∃ last, readOnly (.ofText text) =
      if ((rawLines text.toList).drop rest.lineNumber).all isBlankLine then .ok frame last
      else .error (.format ⟨.contentAfterFrame, some (rest.lineNumber + 1)⟩) last := by
  have content := not_blank_of_read read
  rw [← all_isBlankLine_stripTerminator] at content
  obtain ⟨lines, later, cut, spelled, stops⟩ := recognises_read.spelled (shows_ofText text) read
  have count : rest.lineNumber = lines.length := by rw [stops.lineNumber, Nat.zero_add]
  have behind : ((rawLines text.toList).drop rest.lineNumber).all isBlankLine =
      later.all isBlankLine := by
    rw [← all_isBlankLine_stripTerminator, List.map_drop, cut, count, List.drop_left]
  obtain ⟨start, begins, shows⟩ := (shows_ofText text).atEnd
  rw [content] at begins
  rw [cut] at shows
  obtain ⟨middle, taken, shows⟩ := recognises_read.takes spelled _ _ _ shows
  obtain ⟨last, ends, shows⟩ := shows.atEnd
  have place : last.lineNumber = rest.lineNumber := by rw [shows.lineNumber, count, Nat.zero_add]
  refine ⟨last, ?_⟩
  unfold readOnly
  rw [bind_of_ok begins, if_neg Bool.false_ne_true, bind_of_ok taken, bind_of_ok ends, behind,
    ← place]
  split <;> rfl

private theorem exists_read_of_ofText (done : Frame.ofText text = .ok frame) :
    ∃ rest, Frame.read (.ofText text) = .ok frame rest := by
  unfold Frame.ofText at done
  split at done
  next found last only =>
    cases done
    obtain ⟨ended, start, met, only⟩ := bind_eq_ok_iff.1 only
    obtain ⟨start', met', shows⟩ := (shows_ofText text).atEnd
    cases met.symm.trans met'
    split at only
    next => cases only
    next =>
      obtain ⟨found, middle, taken, only⟩ := bind_eq_ok_iff.1 only
      obtain ⟨finished, _, -, only⟩ := bind_eq_ok_iff.1 only
      split at only
      next =>
        obtain ⟨rfl, -⟩ := pure_eq_ok_iff.1 only
        obtain ⟨lines, later, cut, spelled, -⟩ := recognises_read.spelled shows taken
        have fresh := shows_ofText text
        rw [cut] at fresh
        obtain ⟨rest, read, -⟩ := recognises_read.takes spelled _ _ _ fresh
        exact ⟨rest, read⟩
      next => cases only
  next => cases done

/-- Once a frame is read from the front of a text, the lines behind it decide. -/
theorem ofText_of_read (read : Frame.read (.ofText text) = .ok frame rest) :
    Frame.ofText text =
      if ((rawLines text.toList).drop rest.lineNumber).all isBlankLine then .ok frame
      else .error (.format ⟨.contentAfterFrame, some (rest.lineNumber + 1)⟩) := by
  obtain ⟨last, only⟩ := readOnly_of_read read
  rw [Frame.ofText, only]
  cases ((rawLines text.toList).drop rest.lineNumber).all isBlankLine <;> rfl

/-- A text holds a frame exactly if the frame is read from its front and only blank lines are
left. -/
theorem ofText_eq_ok_iff :
    Frame.ofText text = .ok frame ↔ ∃ rest, Frame.read (.ofText text) = .ok frame rest ∧
      ((rawLines text.toList).drop rest.lineNumber).all isBlankLine = true := by
  refine ⟨fun done => ?_, fun found => ?_⟩
  · obtain ⟨rest, read⟩ := exists_read_of_ofText done
    rw [ofText_of_read read] at done
    split at done
    next blank => exact ⟨rest, read, blank⟩
    next => cases done
  · obtain ⟨rest, read, blank⟩ := found
    rw [ofText_of_read read, if_pos blank]

/-- A text goes on after its frame: the frame is read from its first lines, blank lines come
after them, and then a line that is not blank. -/
structure GoesOn (text : String) (taken : Nat) (blanks : List Line) : Prop where
  read : ∃ frame rest, Frame.read (.ofText text) = .ok frame rest ∧ rest.lineNumber = taken
  blank : ∀ line ∈ blanks, isBlankLine line = true
  content : ∃ line later, isBlankLine line = false ∧
    (rawLines text.toList).drop taken = blanks ++ line :: later

/-- A text that goes on after its frame is refused, and the fault names the line behind the
frame. That is the line which is not blank exactly if no blank line stands before it. -/
theorem ofText_of_goesOn {text : String} {taken : Nat} {blanks : List Line}
    (goesOn : GoesOn text taken blanks) :
    Frame.ofText text = .error (.format ⟨.contentAfterFrame, some (taken + 1)⟩) ∧
      FormatCause.contentAfterFrame.category = .header ∧
      (∃ line, (rawLines text.toList)[taken + blanks.length]? = some line ∧
        isBlankLine line = false) ∧
      ((∃ cause, cause.category = .header ∧ Frame.ofText text =
        .error (.format ⟨cause, some (taken + blanks.length + 1)⟩)) ↔ blanks = []) := by
  obtain ⟨⟨frame, rest, read, rfl⟩, blank, line, later, solid, follows⟩ := goesOn
  have refused : Frame.ofText text =
      .error (.format ⟨.contentAfterFrame, some (rest.lineNumber + 1)⟩) := by
    have more : (blanks ++ line :: later).all isBlankLine = false := by simp [solid]
    rw [ofText_of_read read, follows, if_neg (Bool.eq_false_iff.1 more)]
  refine ⟨refused, rfl, ⟨line, ?_, solid⟩, ?_⟩
  · rw [← List.getElem?_drop, follows, List.getElem?_append_right (Nat.le_refl _), Nat.sub_self]
    rfl
  · rw [refused]
    refine ⟨?_, ?_⟩
    · intro named
      obtain ⟨cause, -, same⟩ := named
      simp only [Except.error.injEq, Fault.format.injEq, FormatFault.mk.injEq,
        Option.some.injEq] at same
      exact List.length_eq_zero_iff.1 (by omega)
    · intro none
      exact ⟨.contentAfterFrame, rfl, by rw [none]; rfl⟩

/-- A frame without species, of which the last two lines are empty, then two blank lines, and
then one line more. -/
def trailedText : String :=
  "x\ny\n1 1 1\n90 90 90\na\nb\n0\n\n\n" ++ "\n \n" ++ "more\n"

/-- The lines on which a frame is read from the front of a text. -/
def lineCount? (text : String) : Option Nat :=
  match Frame.read (.ofText text) with
  | .ok _ rest => some rest.lineNumber
  | .error _ _ => none

theorem exists_read_of_lineCount? {text : String} {taken : Nat}
    (counted : lineCount? text = some taken) :
    ∃ frame rest, Frame.read (.ofText text) = .ok frame rest ∧ rest.lineNumber = taken := by
  unfold lineCount? at counted
  split at counted
  next frame rest read => exact ⟨frame, rest, read, Option.some.inj counted⟩
  next => cases counted

theorem goesOn_trailedText : GoesOn trailedText 9 [['\n'], [' ', '\n']] where
  read := exists_read_of_lineCount? (by decide +kernel)
  blank := by decide
  content := ⟨"more\n".toList, [], by decide, by decide +kernel⟩

theorem ofText_of_goesOn_trailed :
    GoesOn trailedText 9 [['\n'], [' ', '\n']] ∧
      Frame.ofText trailedText = .error (.format ⟨.contentAfterFrame, some 10⟩) ∧
      ¬ ∃ cause, cause.category = .header ∧
        Frame.ofText trailedText = .error (.format ⟨cause, some 12⟩) := by
  obtain ⟨refused, -, -, named⟩ := ofText_of_goesOn goesOn_trailedText
  refine ⟨goesOn_trailedText, refused, fun found => ?_⟩
  cases named.1 found

/-- The line with the content is line 12, and the fault names line 10, which is blank. -/
theorem trailing_content_misplaced :
    GoesOn trailedText 9 [['\n'], [' ', '\n']] ∧
      ((rawLines trailedText.toList)[11]? = some "more\n".toList ∧
        (rawLines trailedText.toList)[9]? = some ['\n']) ∧
      Frame.ofText trailedText = .error (.format ⟨.contentAfterFrame, some 10⟩) ∧
      ∀ cause, Frame.ofText trailedText ≠ .error (.format ⟨cause, some 12⟩) := by
  have refused : Frame.ofText trailedText = .error (.format ⟨.contentAfterFrame, some 10⟩) := by
    decide +kernel
  refine ⟨goesOn_trailedText, ⟨by decide +kernel, by decide +kernel⟩, refused, ?_⟩
  intro cause same
  cases refused.symm.trans same

end Frame

end Atomistic
