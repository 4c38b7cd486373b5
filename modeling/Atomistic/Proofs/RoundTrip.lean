import Atomistic.Document
import Atomistic.Proofs.FrameReading
import Atomistic.Proofs.StreamView

/-! Frames that are written one after the other are read back in the same order. Nothing
stands between two frames, so the text of each has to tell where it ends. -/

namespace Atomistic

open Number Text

namespace Frame

/-- The number of species is never blank, so a frame is not taken for the end of its text. -/
theorem exists_lines {frame : Frame} (writable : frame.Writable) :
    ∃ lines, frame.lines = .ok lines ∧ (∀ line ∈ lines, IsUnbroken line) ∧
      lines.all isBlankLine = false ∧ Takes Frame.read lines frame.grouped := by
  obtain ⟨lines, written, unbroken, takes⟩ := readsBack writable
  refine ⟨lines, written, unbroken, ?_, takes⟩
  obtain ⟨symbols, -, later⟩ := result_bind_eq_ok_iff.1 written
  obtain ⟨blocks, -, joined⟩ := result_bind_eq_ok_iff.1 later
  cases joined
  have word := isWord_writeInt frame.blocks.length
  have solid : isBlankLine (writeInt frame.blocks.length) = false := by
    obtain ⟨c, rest, shape⟩ := List.exists_cons_of_ne_nil word.nonempty
    simp [isBlankLine, shape, word.solid c (by simp [shape])]
  simp [headLines, solid]

theorem write_eq_ok {frame : Frame} {lines : List Line} (written : frame.lines = .ok lines) :
    frame.write = .ok (String.ofList (joinLines lines)) := by
  rw [Frame.write, written, ok_bind, pure_eq_ok]

end Frame

theorem lines_of_unbroken {lines : List Line} (unbroken : ∀ line ∈ lines, IsUnbroken line) :
    (rawLines (String.ofList (joinLines lines)).toList).map stripTerminator = lines := by
  rw [String.toList_ofList, rawLines_joinLines unbroken]

namespace Document

open FrameStream

theorem write_cons {frame : Frame} {frames : List Frame} {first others : String}
    (written : frame.write = .ok first) (joined : write frames = .ok others) :
    write (frame :: frames) = .ok (first ++ others) := by
  change joinTexts (frame.write :: frames.map Frame.write) = _
  change joinTexts (frames.map Frame.write) = _ at joined
  rw [joinTexts, written, joined, ok_bind, ok_bind, pure_eq_ok]

theorem write_append {frames others : List Frame} {first second : String}
    (written : write frames = .ok first) (joined : write others = .ok second) :
    write (frames ++ others) = .ok (first ++ second) := by
  induction frames generalizing first with
  | nil =>
    cases written
    rw [List.nil_append, joined, String.empty_append]
  | cons frame rest ih =>
    obtain ⟨text, frameWritten, done⟩ := result_bind_eq_ok_iff.1 written
    obtain ⟨later, restWritten, done⟩ := result_bind_eq_ok_iff.1 done
    cases done
    rw [String.append_assoc]
    exact write_cons frameWritten (ih restWritten)

theorem exists_lines_of_frames {frames : List Frame} (writable : ∀ frame ∈ frames, frame.Writable) :
    ∃ lines, write frames = .ok (String.ofList (joinLines lines)) ∧
      (∀ line ∈ lines, IsUnbroken line) ∧
      ∀ stream taken, FrameStream.Running stream taken lines →
        ∃ last, stream.drain = .ok (frames.map Frame.grouped) last := by
  induction frames with
  | nil =>
    refine ⟨[], rfl, by simp, ?_⟩
    intro stream taken running
    obtain ⟨last, ended⟩ := running.next_blank rfl
    exact ⟨last, drain_of_none ended⟩
  | cons frame rest ih =>
    obtain ⟨first, written, firstUnbroken, content, takes⟩ :=
      Frame.exists_lines (writable frame (by simp))
    obtain ⟨others, joined, unbroken, drains⟩ :=
      ih fun other member => writable other (List.mem_cons_of_mem _ member)
    refine ⟨first ++ others, ?_, List.forall_mem_append.2 ⟨firstUnbroken, unbroken⟩, ?_⟩
    · rw [write_cons (Frame.write_eq_ok written) joined, joinLines_append, String.ofList_append]
    · intro stream taken running
      obtain ⟨later, met, after⟩ := running.next_takes content takes
      obtain ⟨last, drained⟩ := drains _ _ after
      exact ⟨last, drain_of_some met drained⟩

theorem frames_eq_ok_iff {text : String} {frames : List Frame} :
    Document.frames text = .ok frames ↔
      ∃ last, (FrameStream.ofText text).drain = .ok frames last := by
  rw [Document.frames]
  split
  next drained => simp [drained]
  next failed => simp [failed]

theorem frames_eq_error_iff {text : String} {fault : Fault} :
    Document.frames text = .error fault ↔
      ∃ last, (FrameStream.ofText text).drain = .error fault last := by
  rw [Document.frames]
  split
  next drained => simp [drained]
  next failed => simp [failed]

theorem frames_of_lines {frames : List Frame} (writable : ∀ frame ∈ frames, frame.Writable) :
    ∃ text, write frames = .ok text ∧ Document.frames text = .ok (frames.map Frame.grouped) := by
  obtain ⟨lines, written, unbroken, drains⟩ := exists_lines_of_frames writable
  refine ⟨_, written, ?_⟩
  have running := running_ofText (String.ofList (joinLines lines))
  rw [lines_of_unbroken unbroken] at running
  exact frames_eq_ok_iff.2 (drains _ _ running)

end Document

namespace Frame

theorem ofText_of_lines {frame : Frame} (writable : frame.Writable) :
    ∃ text, frame.write = .ok text ∧ Frame.ofText text = .ok frame.grouped := by
  obtain ⟨lines, written, unbroken, content, takes⟩ := exists_lines writable
  refine ⟨_, write_eq_ok written, ?_⟩
  have shows := LineCursor.shows_ofText (String.ofList (joinLines lines))
  rw [lines_of_unbroken unbroken] at shows
  obtain ⟨start, begins, shows⟩ := shows.atEnd
  rw [content] at begins
  rw [← List.append_nil lines] at shows
  obtain ⟨middle, read, shows⟩ := takes _ _ _ shows
  obtain ⟨last, ends, -⟩ := shows.atEnd
  have only : readOnly (LineCursor.ofText (String.ofList (joinLines lines))) =
      .ok frame.grouped last := by
    unfold readOnly
    rw [bind_of_ok begins, if_neg Bool.false_ne_true, bind_of_ok read, bind_of_ok ends]
    rfl
  rw [Frame.ofText, only]

/-- The same frame, but a mass of zero may be the other zero. -/
structure Alike (one other : Frame) : Prop where
  preBox : one.preBox = other.preBox
  cell : one.cell = other.cell
  angles : one.angles = other.angles
  postBox : one.postBox = other.postBox
  atoms : List.Forall₂ Atom.Alike one.atoms other.atoms

theorem alike_grouped {frame : Frame} (contiguous : isSpeciesContiguous frame.atoms = true) :
    frame.grouped.Alike frame :=
  ⟨rfl, rfl, rfl, rfl, alike_of_isSpeciesContiguous contiguous frame.massesEqual⟩

end Frame

namespace Document

/-- Every document that can be written is read back as the same frames, each with its atoms
grouped by species, just as when it is built anew from its species blocks. A frame whose species
stand together comes back as it was. -/
theorem frames_survive {frames : List Frame} (writable : ∀ frame ∈ frames, frame.Writable) :
    (∃ text, write frames = .ok text ∧
      Document.frames text = .ok (frames.map Frame.grouped)) ∧
    ∀ frame ∈ frames,
      (∃ blocks, group frame.atoms = .ok blocks ∧ frame.grouped.atoms = flatten blocks) ∧
      frame.regrouped = .ok frame.grouped ∧
      (∃ text, frame.write = .ok text ∧ Frame.ofText text = .ok frame.grouped) ∧
      (isSpeciesContiguous frame.atoms = true → frame.grouped.Alike frame) := by
  refine ⟨frames_of_lines writable, ?_⟩
  intro frame member
  refine ⟨⟨gather frame.atoms, group_of_massesAgree frame.massesEqual, rfl⟩,
    frame.regrouped_eq_ok, ?_, ?_⟩
  · exact Frame.ofText_of_lines (writable frame member)
  · exact Frame.alike_grouped

def noHeader : HeaderLine :=
  ⟨"", rfl⟩

def hydrogen : AtomicNumber :=
  ⟨1, by decide⟩

/-- Water with the oxygen in between, in a box that is not finite. -/
def scattered : Frame where
  preBox := ⟨noHeader, ⟨" ", rfl⟩⟩
  cell := ⟨⟨.infinite false, .nan, .ofRank true 0⟩, by decide +kernel⟩
  angles := ⟨.nan, .infinite true, .zero⟩
  postBox := ⟨⟨"water", rfl⟩, noHeader⟩
  atoms := [
    ⟨hydrogen, .one, ⟨⟨.zero, .zero, .one⟩, 0, false⟩⟩,
    ⟨⟨8, by decide⟩, .zero, ⟨⟨.zero, .one, .nan⟩, 7, true⟩⟩,
    ⟨hydrogen, .one, ⟨⟨.one, .zero, .zero⟩, 7, false⟩⟩]
  massesAgree := by decide +kernel

theorem writable_scattered : scattered.Writable where
  known := by decide +kernel
  ids := by decide +kernel
  counts := by
    have blocks : scattered.atomsPerSpecies = [2, 1] := by
      simp [Frame.atomsPerSpecies, Frame.blocks, scattered, hydrogen, gather_cons, gather_nil,
        SpeciesBlock.count]
    rw [blocks]
    decide +kernel

theorem frames_survive_scattered :
    (∀ frame ∈ [scattered, scattered], frame.Writable) ∧
      ∃ text, write [scattered, scattered] = .ok text ∧
        Document.frames text = .ok [scattered.grouped, scattered.grouped] := by
  have writable : ∀ frame ∈ [scattered, scattered], frame.Writable := by
    simp [writable_scattered]
  exact ⟨writable, (frames_survive writable).1⟩

end Document

end Atomistic
