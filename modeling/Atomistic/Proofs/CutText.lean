import Atomistic.Proofs.CutLines
import Atomistic.Proofs.FrameRecognition
import Atomistic.Proofs.RoundTrip

/-! Documents that were written in part. The counts near the top of a frame tell how many lines it
has, so a frame of which lines are missing is never taken for a smaller one. The only line that
may end early is the last one, and the flag at its end is a single character. -/

namespace Atomistic

open Number Text

namespace FrameStream

/-- The frames that a stream gives one by one, before it ends or fails. -/
def delivered (stream : FrameStream) : List Frame :=
  match _taken : next stream with
  | .ok (some frame) rest => frame :: delivered rest
  | _ => []
termination_by stream.cursor.remaining
decreasing_by exact remaining_next _taken

variable {stream rest : FrameStream}

theorem delivered_of_some {frame : Frame} (taken : next stream = .ok (some frame) rest) :
    stream.delivered = frame :: rest.delivered := by
  rw [delivered]
  split
  next found later again =>
    cases taken.symm.trans again
    rfl
  next other => exact absurd taken (other frame rest)

theorem delivered_of_nothing (nothing : ∀ frame rest, next stream ≠ .ok (some frame) rest) :
    stream.delivered = [] := by
  rw [delivered]
  split
  next frame rest taken => exact absurd taken (nothing frame rest)
  next => rfl

theorem delivered_of_end {taken : Nat} (running : stream.Running taken []) :
    stream.delivered = [] := by
  obtain ⟨last, ended⟩ := running.next_blank rfl
  apply delivered_of_nothing
  intro frame rest met
  cases ended.symm.trans met

/-- What a running stream takes for a frame is spelled by the lines in front. -/
theorem spelled_of_next {taken : Nat} {left : List Line} (running : stream.Running taken left)
    {frame : Frame} (met : next stream = .ok (some frame) rest) :
    ∃ part later parts, left = part ++ later ∧ SpellsFrame part parts ∧ frame.MadeOf parts := by
  obtain ⟨middle, taken, -⟩ := next_eq_some_iff.1 met
  obtain ⟨-, part, later, cut, ⟨parts, spelled, made⟩, -⟩ :=
    running.takeFrame_recognised Frame.recognises_read taken
  exact ⟨part, later, parts, cut, spelled, made⟩

end FrameStream

section Grammar

theorem isInteger_rightUnique : Relator.RightUnique IsInteger :=
  fun _ _ _ one other => one.unique other

theorem SpellsIntegers.unique {line : Line} {values others : List Int}
    (one : SpellsIntegers line values) (other : SpellsIntegers line others) : values = others :=
  List.right_unique_forall₂' isInteger_rightUnique one other

/-- The last line has the property. -/
def EndsIn (property : Line → Prop) (lines : List Line) : Prop :=
  ∃ front line, lines = front ++ [line] ∧ property line

namespace EndsIn

variable {property : Line → Prop} {lines : List Line}

theorem of_forall (nonempty : lines ≠ []) (all : ∀ line ∈ lines, property line) :
    EndsIn property lines :=
  ⟨_, _, (List.dropLast_append_getLast nonempty).symm, all _ (List.getLast_mem nonempty)⟩

theorem append (ends : EndsIn property lines) (first : List Line) :
    EndsIn property (first ++ lines) := by
  obtain ⟨front, line, rfl, holds⟩ := ends
  exact ⟨first ++ front, line, by simp, holds⟩

theorem of_concat {front : List Line} {line : Line} (ends : EndsIn property (front ++ [line])) :
    property line := by
  obtain ⟨others, last, same, holds⟩ := ends
  obtain ⟨-, equal⟩ := List.append_inj' same rfl
  exact List.singleton_inj.1 equal ▸ holds

end EndsIn

/-- The lines of blocks that all have atoms end in the line of an atom. -/
theorem SpellsBlocks.endsIn {lines : List Line} {blocks : List SpeciesBlock}
    (spelled : SpellsBlocks lines blocks) (nonempty : blocks ≠ [])
    (filled : ∀ block ∈ blocks, 0 < block.count) :
    EndsIn (fun line => ∃ site, SpellsSite line site) lines := by
  induction spelled with
  | none => exact absurd rfl nonempty
  | @block symbol count sites rest block blocks named counted placed others ih =>
    obtain ⟨here, later⟩ := List.forall_mem_cons.1 filled
    by_cases last : blocks = []
    · subst last
      cases others
      have placedSites : sites ≠ [] := by
        rintro rfl
        rw [SpeciesBlock.count, List.forall₂_nil_left_iff.1 placed] at here
        cases here
      rw [List.append_nil]
      refine EndsIn.append (EndsIn.of_forall placedSites fun line member => ?_) [symbol, count]
      obtain ⟨site, -, read⟩ := exists_of_forall₂_right placed.flip member
      exact ⟨site, read⟩
    · exact (ih last later).append _

end Grammar

namespace Frame

variable {frame : Frame} {lines : List Line}

/-- How many lines the frame is written on. -/
def lineCount (frame : Frame) : Nat :=
  9 + 2 * frame.atomsPerSpecies.length + frame.atomsPerSpecies.sum

theorem getElem?_counts (written : frame.lines = .ok lines) :
    lines[7]? = some (writeRow (frame.blocks.map fun block => .integer block.count)) := by
  obtain ⟨symbols, -, done⟩ := result_bind_eq_ok_iff.1 written
  obtain ⟨body, -, done⟩ := result_bind_eq_ok_iff.1 done
  cases done
  rfl

theorem spellsIntegers_counts (writable : frame.Writable) :
    SpellsIntegers (writeRow (frame.blocks.map fun block => .integer block.count))
      (frame.atomsPerSpecies.map Nat.cast) := by
  have read := atomCounts_writeRow writable.counts
  rw [atomsPerSpecies, List.map_map] at read
  exact (FrameLine.atomCounts_eq_ok_iff.1 read).2

/-- Lines that have the counts of the frame on the eighth of them have blocks of just its sizes. -/
theorem counts_of_spelled (writable : frame.Writable) {parts : FrameParts}
    (spelled : SpellsFrame lines parts)
    (same : lines[7]? = some (writeRow (frame.blocks.map fun block => .integer block.count))) :
    parts.blocks.map SpeciesBlock.count = frame.atomsPerSpecies := by
  obtain ⟨line, there, counts⟩ := spelled.declaresSpecies.counts
  cases same.symm.trans there
  have equal := counts.unique (spellsIntegers_counts writable)
  apply List.map_injective_iff.2 fun _ _ same => Int.natCast_inj.1 same
  rw [List.map_map]
  exact equal

theorem length_of_counts {parts : FrameParts} (spelled : SpellsFrame lines parts)
    (same : parts.blocks.map SpeciesBlock.count = frame.atomsPerSpecies) :
    lines.length = frame.lineCount := by
  have blocks := congrArg List.length same
  rw [List.length_map] at blocks
  rw [spelled.length, FrameParts.lineCount, lineCount, same, blocks]

/-- A line of an atom: five fields, the last of them a flag. -/
def IsSiteLine (line : Line) : Prop :=
  ∃ site : Site, site.line = .ok line

theorem IsSiteLine.row {line : Line} (written : IsSiteLine line) :
    ∃ columns isFixed, (∀ column ∈ columns, column.IsPlain) ∧ columns.length = 4 ∧
      line = writeRow (columns ++ [.flag isFixed]) := by
  obtain ⟨site, written⟩ := written
  obtain ⟨id, limited, done⟩ := result_bind_eq_ok_iff.1 written
  unfold writeId at limited
  split at limited
  next =>
    cases limited
    cases done
    refine ⟨site.position.columns ++ [.integer site.id], site.isFixed, ?_, rfl, ?_⟩
    · simp [Triple.columns, Triple.toList, Column.IsPlain]
    · rw [List.append_assoc]
      rfl
  next => cases limited

theorem IsSiteLine.nonempty {line : Line} (written : IsSiteLine line) : line ≠ [] := by
  rintro rfl
  obtain ⟨columns, isFixed, plain, -, row⟩ := written.row
  have cells : ∀ column ∈ columns ++ [.flag isFixed], column.IsPlain :=
    List.forall_mem_append.2 ⟨plain, by simp [Column.IsPlain]⟩
  have none := fields_writeRow cells
  rw [← row, fields_nil] at none
  simp at none

theorem length_fields_of_cut_site {begun lost : Line} (whole : IsSiteLine (begun ++ lost))
    (nonempty : lost ≠ []) : (fields begun).length ≤ 4 := by
  obtain ⟨columns, isFixed, plain, length, row⟩ := whole.row
  exact length ▸ length_fields_of_cut_row plain isFixed nonempty row

theorem endsIn_blockLines {place : Nat} {entries : List (SpeciesBlock × String)}
    (written : blockLines place entries = .ok lines) (nonempty : entries ≠ [])
    (filled : ∀ entry ∈ entries, 0 < entry.1.count) : EndsIn IsSiteLine lines := by
  induction entries generalizing place lines with
  | nil => exact absurd rfl nonempty
  | cons entry rest ih =>
    obtain ⟨block, symbol⟩ := entry
    obtain ⟨here, later⟩ := List.forall_mem_cons.1 filled
    obtain ⟨first, blockWritten, done⟩ := result_bind_eq_ok_iff.1 written
    obtain ⟨others, restWritten, done⟩ := result_bind_eq_ok_iff.1 done
    cases done
    by_cases last : rest = []
    · subst last
      cases restWritten
      obtain ⟨sites, sitesWritten, done⟩ := result_bind_eq_ok_iff.1 blockWritten
      cases done
      have placedSites : sites ≠ [] := by
        rintro rfl
        rw [SpeciesBlock.count, ← length_of_mapM sitesWritten] at here
        cases here
      rw [List.append_nil]
      refine EndsIn.append (EndsIn.of_forall placedSites fun line member => ?_) [_, _]
      obtain ⟨site, -, read⟩ := exists_of_mem_mapM sitesWritten member
      exact ⟨site, read⟩
    · exact (ih restWritten last later).append _

theorem endsIn_lines (written : frame.lines = .ok lines) (some : frame.blocks ≠ []) :
    EndsIn IsSiteLine lines := by
  obtain ⟨symbols, looked, done⟩ := result_bind_eq_ok_iff.1 written
  obtain ⟨body, bodyWritten, done⟩ := result_bind_eq_ok_iff.1 done
  cases done
  have length := length_of_mapM looked
  have nonempty : frame.blocks.zip symbols ≠ [] := by
    intro none
    rcases List.zip_eq_nil_iff.1 none with noBlocks | rfl
    · exact some noBlocks
    · exact some (List.length_eq_zero_iff.1 length.symm)
  refine EndsIn.append (endsIn_blockLines bodyWritten nonempty fun entry member => ?_) _
  exact count_pos_of_mem_gather (List.of_mem_zip member).1

/-- Without species there are only the lines of the head, and the last of them is empty. -/
theorem endsIn_empty (written : frame.lines = .ok lines) (none : frame.blocks = []) :
    EndsIn (· = []) lines := by
  obtain ⟨symbols, looked, done⟩ := result_bind_eq_ok_iff.1 written
  obtain ⟨body, bodyWritten, done⟩ := result_bind_eq_ok_iff.1 done
  cases done
  rw [none] at bodyWritten
  cases bodyWritten
  refine ⟨frame.headLines.take 8, [], ?_, rfl⟩
  simp [headLines, none, writeRow]

theorem length_lines (writable : frame.Writable) (written : frame.lines = .ok lines) :
    lines.length = frame.lineCount := by
  obtain ⟨others, again, unbroken, -, takes⟩ := exists_lines writable
  cases written.symm.trans again
  obtain ⟨parts, spelled, -⟩ := recognises_read.spells_of_takes unbroken takes
  exact length_of_counts spelled (counts_of_spelled writable spelled (getElem?_counts written))

end Frame

theorem SpellsFrame.endsIn {lines : List Line} {parts : FrameParts}
    (spelled : SpellsFrame lines parts) (nonempty : parts.blocks ≠ [])
    (filled : ∀ block ∈ parts.blocks, 0 < block.count) :
    EndsIn (fun line => ∃ site, SpellsSite line site) lines := by
  cases spelled with
  | lines unbroken sized notNegative turned species counts masses blockwise =>
    exact (blockwise.endsIn nonempty filled).append [_, _, _, _, _, _, _, _, _]

namespace Frame

variable {frame : Frame} {lines : List Line}

/-- A frame has atoms of each of its species, and so has whatever has its counts. -/
theorem endsIn_of_counts {parts : FrameParts} (spelled : SpellsFrame lines parts)
    (same : parts.blocks.map SpeciesBlock.count = frame.atomsPerSpecies)
    (some : frame.blocks ≠ []) : EndsIn (fun line => ∃ site, SpellsSite line site) lines := by
  apply spelled.endsIn
  · intro none
    rw [none] at same
    exact some (List.map_eq_nil_iff.1 same.symm)
  · intro block member
    obtain ⟨own, among, equal⟩ := List.mem_map.1 (same ▸ List.mem_map_of_mem member)
    exact equal ▸ count_pos_of_mem_gather among

/-- Of a frame that breaks off nothing is read, except where only its last line feed is missing.
Without atoms its last line is empty, so then that line is missing as well. -/
theorem eq_of_next_brokenOff (writable : frame.Writable) (written : frame.lines = .ok lines)
    {front : List Char} {whole others : List Line} {begun lost : Line}
    (broken : BrokenOff lines front whole begun lost others) {stream rest : FrameStream}
    {taken : Nat} (running : stream.Running taken (whole ++ if begun = [] then [] else [begun]))
    {found : Frame} (met : FrameStream.next stream = .ok (some found) rest) :
    lost = [] ∧ others = [] ∧ frame.blocks ≠ [] := by
  obtain ⟨part, later, parts, cut, spelled, -⟩ := FrameStream.spelled_of_next running met
  obtain ⟨rfl, -⟩ := broken
  have size := length_lines writable written
  have least : 9 ≤ part.length := by
    rw [spelled.length, FrameParts.lineCount]
    omega
  have total := congrArg List.length cut
  have single : (if begun = [] then [] else [begun]).length ≤ 1 := by split <;> simp
  simp only [List.length_append, List.length_cons] at size total
  -- Enough lines are left for the counts to be among the whole ones.
  have shared : part[7]? = (whole ++ (begun ++ lost) :: others)[7]? := by
    calc part[7]?
      _ = (part ++ later)[7]? := (List.getElem?_append_left (by omega)).symm
      _ = whole[7]? := by rw [← cut, List.getElem?_append_left (by omega)]
      _ = (whole ++ (begun ++ lost) :: others)[7]? :=
        (List.getElem?_append_left (by omega)).symm
  have counts := counts_of_spelled writable spelled (shared.trans (getElem?_counts written))
  have same := length_of_counts spelled counts
  obtain rfl : others = [] := List.length_eq_zero_iff.1 (by omega)
  obtain rfl : later = [] := List.length_eq_zero_iff.1 (by omega)
  have some : begun ≠ [] := by
    rintro rfl
    simp at total size
    omega
  rw [if_neg some, List.append_nil] at cut
  subst cut
  have inhabited : frame.blocks ≠ [] := by
    intro none
    have empty := (endsIn_empty written none).of_concat
    exact some (List.append_eq_nil_iff.1 empty).1
  refine ⟨?_, rfl, inhabited⟩
  by_contra missing
  have few := length_fields_of_cut_site (endsIn_lines written inhabited).of_concat missing
  obtain ⟨site, ⟨five, -⟩⟩ := (endsIn_of_counts spelled counts inhabited).of_concat
  rw [five] at few
  simp at few

theorem delivered_brokenOff (writable : frame.Writable) (written : frame.lines = .ok lines)
    {front : List Char} {whole others : List Line} {begun lost : Line}
    (broken : BrokenOff lines front whole begun lost others) {stream : FrameStream} {taken : Nat}
    (running : stream.Running taken ((rawLines front).map stripTerminator)) :
    stream.delivered =
      if (joinLines lines).length = front.length + 1 ∧ frame.atoms ≠ [] then [frame.grouped]
      else [] := by
  obtain ⟨again, same, unbroken, content, takes⟩ := exists_lines writable
  cases written.symm.trans same
  have inhabited : frame.blocks ≠ [] ↔ frame.atoms ≠ [] := not_congr gather_eq_nil_iff
  rw [broken.shown unbroken] at running
  split
  next complete =>
    obtain ⟨feed, atoms⟩ := complete
    have some := inhabited.2 atoms
    obtain ⟨rfl, rfl⟩ := broken.length_text_eq_iff.1 feed
    obtain ⟨rfl, -⟩ := broken
    have last : begun ≠ [] := by
      have nonempty := (endsIn_lines written some).of_concat.nonempty
      rwa [List.append_nil] at nonempty
    rw [if_neg last] at running
    rw [List.append_nil] at takes content
    rw [← List.append_nil (whole ++ [begun])] at running
    obtain ⟨rest, met, running⟩ := running.next_takes content takes
    rw [FrameStream.delivered_of_some met, FrameStream.delivered_of_end running]
  next incomplete =>
    apply FrameStream.delivered_of_nothing
    intro found rest met
    obtain ⟨noneLost, noOthers, some⟩ := eq_of_next_brokenOff writable written broken running met
    exact incomplete ⟨broken.length_text_eq_iff.2 ⟨noneLost, noOthers⟩, inhabited.1 some⟩

end Frame

namespace Document

/-- How many frames are whole in so many characters. One with atoms is whole without the line
feed at its end. -/
def wholeFrames (room : Nat) : List (Frame × String) → Nat
  | [] => 0
  | (frame, text) :: rest =>
    if text.length ≤ room then wholeFrames (room - text.length) rest + 1
    else if text.length = room + 1 ∧ frame.atoms ≠ [] then 1
    else 0

/-- Frame by frame: one that is there in full is given, and then the rest is looked at. -/
theorem delivered_of_running {frames : List Frame}
    (writable : ∀ frame ∈ frames, frame.Writable) :
    ∃ texts, frames.mapM Frame.write = .ok texts ∧
      write frames = .ok (String.join texts) ∧
      ∀ front missing, front ++ missing = (String.join texts).toList →
        ∀ stream taken, FrameStream.Running stream taken ((rawLines front).map stripTerminator) →
          stream.delivered =
            (frames.map Frame.grouped).take (wholeFrames front.length (frames.zip texts)) := by
  induction frames with
  | nil =>
    refine ⟨[], rfl, rfl, ?_⟩
    intro front missing cut stream taken running
    obtain ⟨rfl, -⟩ := List.append_eq_nil_iff.1 cut
    exact FrameStream.delivered_of_end running
  | cons frame rest ih =>
    obtain ⟨first, others⟩ := List.forall_mem_cons.1 writable
    obtain ⟨lines, written, unbroken, content, takes⟩ := Frame.exists_lines first
    obtain ⟨texts, each, joined, delivers⟩ := ih others
    have text := Frame.write_eq_ok written
    refine ⟨String.ofList (joinLines lines) :: texts, ?_, ?_, ?_⟩
    · rw [List.mapM_cons, text, ok_bind, each, ok_bind, pure_eq_ok]
    · rw [write_cons text joined, String.join_cons]
    · intro front missing cut stream taken running
      rw [List.zip_cons_cons, wholeFrames, String.length_ofList]
      have there : ∀ later, front = joinLines lines ++ later →
          later ++ missing = (String.join texts).toList →
          stream.delivered = (frame.grouped :: rest.map Frame.grouped).take
            (if (joinLines lines).length ≤ front.length then
              wholeFrames (front.length - (joinLines lines).length) (rest.zip texts) + 1
            else if (joinLines lines).length = front.length + 1 ∧ frame.atoms ≠ [] then 1
            else 0) := by
        rintro later rfl cut
        rw [rawLines_joinLines_append unbroken] at running
        obtain ⟨after, met, running⟩ := running.next_takes content takes
        rw [FrameStream.delivered_of_some met, delivers later missing cut after _ running,
          List.length_append, if_pos (Nat.le_add_right _ _), Nat.add_sub_cancel_left,
          List.take_succ_cons]
      rw [String.join_cons, String.toList_append, String.toList_ofList] at cut
      rcases List.append_eq_append_iff.1 cut with ⟨gone, cutLines, after⟩ | ⟨later, same, cut⟩
      · by_cases none : gone = []
        · subst none
          rw [List.append_nil] at cutLines
          exact there [] (by rw [cutLines, List.append_nil]) after
        · obtain ⟨whole, begun, lost, others, broken⟩ := exists_brokenOff cutLines.symm none
          have short : ¬ (joinLines lines).length ≤ front.length := by
            have positive := List.length_pos_iff.2 none
            rw [cutLines, List.length_append]
            omega
          rw [Frame.delivered_brokenOff first written broken running, if_neg short]
          split <;> rfl
      · exact there later same cut.symm

/-- Whatever part of a document was written, reading it gives the frames that are whole in that
part, just as they are read from the whole document, and then stops or fails. -/
theorem delivered_of_prefix {frames : List Frame}
    (writable : ∀ frame ∈ frames, frame.Writable) :
    ∃ texts, frames.mapM Frame.write = .ok texts ∧
      write frames = .ok (String.join texts) ∧
      Document.frames (String.join texts) = .ok (frames.map Frame.grouped) ∧
      ∀ front missing : String, front ++ missing = String.join texts →
        (FrameStream.ofText front).delivered =
          (frames.map Frame.grouped).take (wholeFrames front.length (frames.zip texts)) := by
  obtain ⟨texts, each, joined, delivers⟩ := delivered_of_running writable
  obtain ⟨text, written, read⟩ := frames_of_lines writable
  cases joined.symm.trans written
  refine ⟨texts, each, joined, read, ?_⟩
  intro front missing cut
  have apart : front.toList ++ missing.toList = (String.join texts).toList := by
    rw [← String.toList_append, cut]
  exact delivers front.toList missing.toList apart _ 0 (FrameStream.running_ofText front)

/-- What is written for `scattered`, up to the flag of its last atom. -/
def scatteredFront : String :=
  "\n \ninf nan -0.0\nnan -inf 0.0\nwater\n\n2\n2 1\n1.0 0.0\nH\n2 1\n" ++
    "0.0 0.0 1.0 0 0\n1.0 0.0 0.0 7 0\nO\n1 2\n0.0 1.0 nan 7 "

/-- Two frames are written. Without its last flag the second is not given, without the line feed
behind that it is. -/
theorem delivered_of_prefix_scattered :
    (∀ frame ∈ [scattered, scattered], frame.Writable) ∧
      write [scattered, scattered] =
        .ok (scatteredFront ++ "1\n" ++ (scatteredFront ++ "1\n")) ∧
      (FrameStream.ofText (scatteredFront ++ "1\n" ++ scatteredFront)).delivered =
        [scattered.grouped] ∧
      (FrameStream.ofText (scatteredFront ++ "1\n" ++ (scatteredFront ++ "1"))).delivered =
        [scattered.grouped, scattered.grouped] := by
  have writable : ∀ frame ∈ [scattered, scattered], frame.Writable := by
    simp [writable_scattered]
  have written : scattered.write = .ok (scatteredFront ++ "1\n") := by decide +kernel
  have length : scatteredFront.length = 108 := by decide +kernel
  have ends : "1".length = 1 ∧ "1\n".length = 2 := ⟨rfl, rfl⟩
  have atoms : scattered.atoms ≠ [] := List.cons_ne_nil _ _
  obtain ⟨texts, each, joined, -, delivers⟩ := delivered_of_prefix writable
  have both : texts = [scatteredFront ++ "1\n", scatteredFront ++ "1\n"] := by
    simpa [written] using each.symm
  subst both
  refine ⟨writable, ?_, ?_, ?_⟩
  · simpa [String.join_cons] using joined
  · rw [delivers _ "1\n" (by simp [String.join_cons, String.append_assoc])]
    simp [wholeFrames, length, ends]
  · rw [delivers _ "\n" (by simp [String.join_cons, String.append_assoc])]
    simp [wholeFrames, length, ends, atoms]

end Document

end Atomistic
