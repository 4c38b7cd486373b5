import Atomistic.Proofs.ParsedFrames
import Atomistic.Proofs.RoundTrip

/-! Frames that were read are in normal form: their species stand together, they can be
written, and what is written for them is read as the same frames. -/

namespace Atomistic

namespace Frame.Grouped

variable {frame : Frame} {blocks : List SpeciesBlock}

theorem contiguous (read : frame.Grouped blocks) : isSpeciesContiguous frame.atoms = true := by
  rw [read.atoms]
  exact isSpeciesContiguous_flatten read.distinct

theorem grouped_eq (read : frame.Grouped blocks) : frame.grouped = frame := by
  have same : flatten (gather frame.atoms) = frame.atoms := by
    rw [read.atoms]
    exact flatten_gather_flatten read.distinct
  cases frame
  simpa [Frame.grouped, Frame.blocks] using same

/-- Blocks without atoms leave no count behind. -/
theorem writable (read : frame.Grouped blocks) : frame.Writable := by
  have source : ∀ atom ∈ frame.atoms,
      ∃ block ∈ blocks, atom.number = block.number ∧ atom.site ∈ block.sites := by
    intro atom member
    rw [read.atoms] at member
    obtain ⟨block, among, inside⟩ := List.mem_flatMap.1 member
    obtain ⟨site, here, rfl⟩ := List.mem_map.1 inside
    exact ⟨block, among, rfl, here⟩
  refine ⟨?_, ?_, ?_⟩
  · intro atom member
    obtain ⟨block, among, same, -⟩ := source atom member
    rw [same]
    exact (read.fit block among).known
  · intro atom member
    obtain ⟨block, among, -, here⟩ := source atom member
    exact (read.fit block among).ids _ here
  · intro count member
    obtain ⟨block, among, rfl⟩ := List.mem_map.1 member
    rw [Frame.blocks, read.atoms, gather_flatten read.distinct] at among
    exact (read.fit block (List.mem_filter.1 among).1).count

end Frame.Grouped

theorem FrameStream.grouped_of_next {stream rest : FrameStream} {frame : Frame}
    (met : next stream = .ok (some frame) rest) : ∃ blocks, frame.Grouped blocks := by
  obtain ⟨_, taken, -⟩ := next_eq_some_iff.1 met
  obtain ⟨-, -, _, _, -, read, -⟩ := takeFrame_eq_some_iff.1 taken
  exact Frame.grouped_of_read read

theorem FrameStream.grouped_of_drain {stream last : FrameStream} {frames : List Frame}
    (drained : stream.drain = .ok frames last) :
    ∀ frame ∈ frames, ∃ blocks, frame.Grouped blocks := by
  induction frames generalizing stream with
  | nil => simp
  | cons frame later ih =>
    obtain ⟨rest, met, others⟩ := drain_eq_ok_iff.1 drained
    exact List.forall_mem_cons.2 ⟨grouped_of_next met, ih others⟩

namespace FrameStream

/-- All frames of a stream that has fewer of them than this; a walk that can be run. -/
def drainWithin : Nat → FrameStream → Option (Except Fault (List Frame))
  | 0, _ => none
  | bound + 1, stream =>
    match next stream with
    | .error fault _ => some (.error fault)
    | .ok none _ => some (.ok [])
    | .ok (some frame) rest => (drainWithin bound rest).map (Except.map (frame :: ·))

theorem drain_of_drainWithin {bound : Nat} {stream : FrameStream} {frames : List Frame}
    (done : drainWithin bound stream = some (.ok frames)) :
    ∃ last, stream.drain = .ok frames last := by
  induction bound generalizing stream frames with
  | zero => cases done
  | succ bound ih =>
    unfold drainWithin at done
    split at done
    next => cases done
    next last met =>
      cases done
      exact ⟨last, drain_of_none met⟩
    next frame rest met =>
      obtain ⟨result, later, joined⟩ := Option.map_eq_some_iff.1 done
      cases result with
      | error fault => cases joined
      | ok others =>
        cases joined
        obtain ⟨last, drained⟩ := ih later
        exact ⟨last, drain_of_some met drained⟩

end FrameStream

namespace Document

theorem frames_of_drainWithin {bound : Nat} {text : String} {frames : List Frame}
    (done : (FrameStream.ofText text).drainWithin bound = some (.ok frames)) :
    Document.frames text = .ok frames :=
  frames_eq_ok_iff.2 (FrameStream.drain_of_drainWithin done)

theorem grouped_of_frames {text : String} {frames : List Frame}
    (parsed : Document.frames text = .ok frames) :
    ∀ frame ∈ frames, ∃ blocks, frame.Grouped blocks := by
  obtain ⟨last, drained⟩ := frames_eq_ok_iff.1 parsed
  exact FrameStream.grouped_of_drain drained

/-- Frames that were read are written as a text with just these frames in it. -/
theorem frames_of_grouped {frames : List Frame}
    (grouped : ∀ frame ∈ frames, ∃ blocks, frame.Grouped blocks) :
    (∀ frame ∈ frames, frame.Writable) ∧
      ∃ text, write frames = .ok text ∧ Document.frames text = .ok frames := by
  have writable : ∀ frame ∈ frames, frame.Writable := by
    intro frame member
    obtain ⟨blocks, read⟩ := grouped frame member
    exact read.writable
  have same : frames.map Frame.grouped = frames := by
    refine (List.map_congr_left ?_).trans (List.map_id frames)
    intro frame member
    obtain ⟨blocks, read⟩ := grouped frame member
    exact read.grouped_eq
  obtain ⟨text, written, again⟩ := frames_of_lines writable
  rw [same] at again
  exact ⟨writable, text, written, again⟩

/-- Reading settles on a normal form: the frames of any text can be written, and that text is
read as the same frames, which are written as the same text. -/
theorem reading_normalises {text : String} {frames : List Frame}
    (parsed : Document.frames text = .ok frames) :
    (∀ frame ∈ frames, isSpeciesContiguous frame.atoms = true) ∧
    ∃ normal, write frames = .ok normal ∧ Document.frames normal = .ok frames ∧
      (Document.frames normal >>= write) = .ok normal := by
  have grouped := grouped_of_frames parsed
  obtain ⟨-, normal, written, again⟩ := frames_of_grouped grouped
  refine ⟨?_, normal, written, again, ?_⟩
  · intro frame member
    obtain ⟨blocks, read⟩ := grouped frame member
    exact read.contiguous
  · rw [again, ok_bind, written]

/-- A hydrogen atom and no helium, written with a label, a tab and line ends of two kinds. -/
def labelledLines : String :=
  "head\r\n\r\n1e0 0 inf\n 9.0E1\t90 090. \n\n\n2\n1 0\n1.0 2\nH\nCoordinates of H\n" ++
    "+1 -0 1e-999 007 1.0\nHe\n0 2\n"

def labelledText : String :=
  labelledLines ++ labelledLines ++ " \n\n"

def labelledFrame : Frame where
  preBox := ⟨⟨"head", rfl⟩, noHeader⟩
  cell := ⟨⟨.one, .zero, .infinite false⟩, by decide +kernel⟩
  angles := ⟨.ofRatio false 90 1, .ofRatio false 90 1, .ofRatio false 90 1⟩
  postBox := ⟨noHeader, noHeader⟩
  atoms := [⟨hydrogen, .one, ⟨⟨.one, .ofRank true 0, .zero⟩, 7, true⟩⟩]
  massesAgree := by decide +kernel

theorem frames_labelledText :
    Document.frames labelledText = .ok [labelledFrame, labelledFrame] :=
  @frames_of_drainWithin 3 _ _ (by decide +kernel)

theorem reading_normalises_labelled :
    Document.frames labelledText = .ok [labelledFrame, labelledFrame] ∧
      ∃ normal, write [labelledFrame, labelledFrame] = .ok normal ∧
        Document.frames normal = .ok [labelledFrame, labelledFrame] ∧
        (Document.frames normal >>= write) = .ok normal :=
  ⟨frames_labelledText, (reading_normalises frames_labelledText).2⟩

end Document

end Atomistic
