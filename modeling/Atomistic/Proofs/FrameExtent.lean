import Atomistic.Proofs.FrameRecognition
import Atomistic.Proofs.NormalForm

/-! How far frames go. To pass over a frame only the two lines with its counts are looked at, so
lines are cut into frames even where some of these cannot be read. A frame that can be read goes
as far as one that is passed over. -/

namespace Atomistic

open Text LineCursor

namespace Frame

theorem recognises_skipLines (reading : String) (count : Nat) :
    Recognises (skipLines reading count) fun lines _ => lines.length = count := by
  induction count with
  | zero =>
    refine (Recognises.pure ()).congr fun lines _ => ?_
    simp
  | succ count ih =>
    refine ((Recognises.require reading).bind fun _ => ih).congr fun lines _ => ?_
    constructor
    · rintro ⟨line, _, rest, rfl, rfl, rfl⟩
      rfl
    · intro sized
      obtain ⟨line, rest, rfl⟩ := List.exists_cons_of_length_eq_add_one sized
      exact ⟨line, [line], rest, rfl, rfl, Nat.succ.inj sized⟩

/-- As many lines as the counts call for, whatever the other lines are. -/
inductive HasExtent : List Line → Prop where
  | lines {header middle body : List Line} {mass : Line} {counts : List Nat}
      (six : header.length = 6) (counted : SpellsCounts middle counts)
      (sized : body.length = bodyLines counts) :
      HasExtent (header ++ (middle ++ mass :: body))

theorem recognises_skip : Recognises Frame.skip fun lines _ => HasExtent lines := by
  refine ((recognises_skipLines _ 6).bind fun _ => recognises_readCounts.bind fun _ =>
    (recognises_skipLines _ 1).bind fun _ => recognises_skipLines _ _).congr fun lines _ => ?_
  constructor
  · rintro ⟨_, header, _, rfl, six, counts, middle, _, rfl, counted, _, masses, body, rfl, one,
      sized⟩
    obtain ⟨mass, rfl⟩ := List.length_eq_one_iff.1 one
    exact .lines six counted sized
  · rintro ⟨six, counted, sized⟩
    exact ⟨(), _, _, rfl, six, _, _, _, rfl, counted, (), [_], _, rfl, rfl, sized⟩

theorem bodyLines_eq (counts : List Nat) : bodyLines counts = 2 * counts.length + counts.sum := by
  induction counts with
  | nil => rfl
  | cons count rest ih =>
    rw [bodyLines, ih, List.length_cons, List.sum_cons]
    omega

/-- The lines of a frame are as many as its counts call for. -/
theorem HasExtent.counts {lines : List Line} (extent : HasExtent lines) :
    ∃ counts, SpellsCounts ((lines.drop 6).take 2) counts ∧
      lines.length = 9 + 2 * counts.length + counts.sum := by
  cases extent with
  | @lines header middle body mass counts six counted sized =>
    have two : middle.length = 2 := by
      obtain ⟨number, numbers, rfl, -⟩ := counted
      rfl
    refine ⟨counts, ?_, ?_⟩
    · rwa [List.drop_left' six, List.take_left' two]
    · rw [List.length_append, List.length_append, List.length_cons, six, two, sized, bodyLines_eq]
      omega

/-- Lines begin with a frame where two of them have counts and the others are enough for these. -/
theorem exists_extent {lines : List Line} {counts : List Nat}
    (counted : SpellsCounts ((lines.drop 6).take 2) counts)
    (enough : 9 + 2 * counts.length + counts.sum ≤ lines.length) :
    ∃ piece later, lines = piece ++ later ∧ HasExtent piece := by
  obtain ⟨mass, tail, behind⟩ : ∃ mass tail, lines.drop 8 = mass :: tail :=
    List.exists_cons_of_length_pos (by rw [List.length_drop]; omega)
  have long : bodyLines counts ≤ tail.length := by
    have total := congrArg List.length behind
    rw [List.length_drop, List.length_cons] at total
    rw [bodyLines_eq]
    omega
  have six : (lines.take 6).length = 6 := List.length_take_of_le (by omega)
  have extent : HasExtent
      (lines.take 6 ++ ((lines.drop 6).take 2 ++ mass :: tail.take (bodyLines counts))) :=
    .lines six counted (List.length_take_of_le long)
  refine ⟨_, tail.drop (bodyLines counts), ?_, extent⟩
  have middle := List.take_append_drop 2 (lines.drop 6)
  rw [List.drop_drop, behind] at middle
  rw [List.append_assoc, List.append_assoc, List.cons_append, List.take_append_drop, middle,
    List.take_append_drop]

/-- The number of species is never blank, so a frame is not taken for the end of the input. -/
theorem HasExtent.not_blank {lines : List Line} (extent : HasExtent lines) :
    lines.all isBlankLine = false := by
  cases extent with
  | @lines header middle body mass counts six counted sized =>
    obtain ⟨number, numbers, rfl, species, -⟩ := counted
    have solid : isBlankLine number = false := by
      refine Bool.eq_false_iff.2 fun blank => ?_
      rw [SpellsIntegers, fields_of_isBlankLine blank] at species
      cases species
    simp [solid]

variable {piece later : List Line}

/-- A piece is passed over as a frame, whatever lines follow it. -/
def Spans (piece : List Line) : Prop :=
  HasExtent (piece.map stripTerminator)

theorem spans_of_skip {after : LineCursor}
    (passed : Frame.skip (.ofLines (piece ++ later)) = .ok () after)
    (left : after.remaining = later.length) : Spans piece := by
  obtain ⟨lines, rest, cut, extent, shows⟩ := recognises_skip.spelled (shows_ofLines _) passed
  rw [shows.remaining] at left
  rw [List.map_append] at cut
  obtain ⟨same, -⟩ := List.append_inj' cut (by rw [List.length_map, left])
  rwa [Spans, same]

theorem Spans.takes (spans : Spans piece) : Takes Frame.skip (piece.map stripTerminator) () :=
  recognises_skip.takes spans

/-- What is read from a piece by itself is read from it as well when lines follow. -/
theorem Spans.takes_read (spans : Spans piece) {frame : Frame} {after : LineCursor}
    (read : Frame.read (.ofLines piece) = .ok frame after) :
    Takes Frame.read (piece.map stripTerminator) frame := by
  obtain ⟨lines, rest, cut, spelled, shows⟩ :=
    recognises_read.spelled (shows_ofLines piece) read
  have whole := shows_ofLines piece
  rw [← List.append_nil (piece.map stripTerminator)] at whole
  obtain ⟨last, passed, ends⟩ := spans.takes _ _ _ whole
  -- reading goes as far as passing over does, and that takes the whole piece
  cases passed.symm.trans (skip_of_read read)
  obtain rfl : rest = [] := shows.lines.symm.trans ends.lines
  rw [cut, List.append_nil]
  exact recognises_read.takes spelled

end Frame

/-- The lines are cut into pieces by passing over one frame after the other, until only blank
lines are left. -/
inductive SplitsInto : List Line → List (List Line) → Prop where
  | blank {lines : List Line} (blank : lines.all isBlankLine = true) : SplitsInto lines []
  | frame {piece later : List Line} {pieces : List (List Line)} {after : LineCursor}
      (passed : Frame.skip (.ofLines (piece ++ later)) = .ok () after)
      (left : after.remaining = later.length) (others : SplitsInto later pieces) :
      SplitsInto (piece ++ later) (piece :: pieces)

/-- The piece by itself is read as the frame. -/
def ReadsAs (piece : List Line) (frame : Frame) : Prop :=
  ∃ rest, Frame.read (.ofLines piece) = .ok frame rest

/-- The text of frames is cut into one piece for each of them, and each piece is read as its
frame. -/
theorem splitsInto_of_write {frames : List Frame} (writable : ∀ frame ∈ frames, frame.Writable) :
    ∃ text pieces, Document.write frames = .ok text ∧ SplitsInto (rawLines text.toList) pieces ∧
      List.Forall₂ ReadsAs pieces (frames.map Frame.grouped) := by
  induction frames with
  | nil => exact ⟨"", [], rfl, .blank rfl, .nil⟩
  | cons frame rest ih =>
    obtain ⟨here, others⟩ := List.forall_mem_cons.1 writable
    obtain ⟨later, pieces, written, splits, reads⟩ := ih others
    obtain ⟨lines, frameWritten, unbroken, -, takes⟩ := Frame.exists_lines here
    rw [← rawLines_joinLines unbroken] at takes
    obtain ⟨after, read, left⟩ := takes.ofLines (rawLines later.toList)
    obtain ⟨last, alone, -⟩ := takes.ofLines []
    rw [List.append_nil] at alone
    refine ⟨_, rawLines (joinLines lines) :: pieces,
      Document.write_cons (Frame.write_eq_ok frameWritten) written, ?_, .cons ⟨last, alone⟩ reads⟩
    rw [String.toList_append, String.toList_ofList, rawLines_append (ended_joinLines lines)]
    exact .frame (Frame.skip_of_read read) left splits

end Atomistic
