import Atomistic.Proofs.FileWriting

/-! Files of frames that are read after they were written. Writing a frame tells whether it can
be read again: what has no symbol or too long an id is not written. -/

namespace Atomistic

open Number Text

section Written

theorem SpeciesBlock.known_of_symbol {block : SpeciesBlock} {symbol : String}
    (found : block.symbol = .ok symbol) : block.number.value ≤ Element.symbols.length := by
  have looked := mapError_eq_ok_iff.1 found
  unfold AtomicNumber.symbol at looked
  cases met : Element.symbolOf? block.number.value with
  | none =>
    rw [met] at looked
    cases looked
  | some symbol => exact Element.le_of_symbolOf? met

theorem withinLimit_of_line {site : Site} {line : Line} (written : site.line = .ok line) :
    WithinLimit site.id := by
  obtain ⟨column, id, -⟩ := result_bind_eq_ok_iff.1 written
  unfold writeId at id
  split at id
  next within => exact within
  next => cases id

/-- Every block was written, under some symbol and with some place. -/
theorem lines_of_blockLines {place : Nat} {blocks : List SpeciesBlock} {symbols : List String}
    {lines : List Line} (sized : symbols.length = blocks.length)
    (written : blockLines place (blocks.zip symbols) = .ok lines) :
    ∀ block ∈ blocks, ∃ symbol place lines, block.lines symbol place = .ok lines := by
  induction blocks generalizing place symbols lines with
  | nil => simp
  | cons block rest ih =>
    cases symbols with
    | nil => cases sized
    | cons symbol later =>
      obtain ⟨first, here, done⟩ := result_bind_eq_ok_iff.1 written
      obtain ⟨others, joined, -⟩ := result_bind_eq_ok_iff.1 done
      refine List.forall_mem_cons.2 ⟨⟨symbol, place, first, here⟩, ih ?_ joined⟩
      exact Nat.succ.inj sized

/-- A frame that was written can be read again. -/
theorem Frame.writable_of_write {frame : Frame} {text : String} (written : frame.write = .ok text)
    (few : ∀ count ∈ frame.atomsPerSpecies, WithinLimit count) : frame.Writable := by
  obtain ⟨lines, made, -⟩ := result_bind_eq_ok_iff.1 written
  obtain ⟨symbols, looked, made⟩ := result_bind_eq_ok_iff.1 made
  obtain ⟨body, blockwise, -⟩ := result_bind_eq_ok_iff.1 made
  have listed := lines_of_blockLines (length_of_mapM looked) blockwise
  refine ⟨fun atom member => ?_, fun atom member => ?_, few⟩
  · obtain ⟨block, among, same, -⟩ := exists_block_of_mem member
    obtain ⟨symbol, -, found⟩ := exists_result_of_mapM looked among
    rw [same]
    exact SpeciesBlock.known_of_symbol found
  · obtain ⟨block, among, -, inside⟩ := exists_block_of_mem member
    obtain ⟨symbol, place, lines, written⟩ := listed block among
    obtain ⟨rows, sites, -⟩ := result_bind_eq_ok_iff.1 written
    obtain ⟨row, -, line⟩ := exists_result_of_mapM sites inside
    exact withinLimit_of_line line

end Written

section Files

open FileTree FileWriter FrameWriter

variable {path : FilePath} {encoding : Encoding} {tree grown made : FileTree}
  {location : Location} {file : FileWriter} {frames : List Frame}

theorem no_return_of_write (writable : ∀ frame ∈ frames, frame.Writable) {text : String}
    (written : Document.write frames = .ok text) : '\r' ∉ text.toList := by
  obtain ⟨lines, joined, unbroken, -⟩ := Document.exists_lines_of_frames writable
  cases written.symm.trans joined
  rw [String.toList_ofList]
  exact no_return_joinLines unbroken

/-- No carriage return is written, so a file of frames is read line by line as it was written,
whatever other characters are in its headers. -/
theorem cursor_of_write (writable : ∀ frame ∈ frames, frame.Writable) {text : String}
    {bytes : ByteArray} (written : Document.write frames = .ok text)
    (encoded : encoding.encode? text.toList = some bytes) :
    encoding.cursor bytes = .ofText text := by
  rw [Encoding.cursor_eq_ofText (no_return_of_write writable written)
    (Encoding.decode?_of_encode? encoded), String.ofList_toList]

theorem openStream_eq {bytes : ByteArray}
    (found : tree.locationOf? path = .ok (some location))
    (held : tree.node? location = some (.file bytes)) :
    FrameStream.openFile path encoding tree = .ok (.ofCursor (encoding.cursor bytes)) tree := by
  have content : tree.bytesAt location = bytes := by rw [bytesAt, held]
  refine (bind_of_ok (openFile_eq_ok found held) _).trans ((get_bind _ _).trans ?_)
  rw [content]
  rfl

/-- A file whose lines are those of a text is read as the text is. -/
theorem framesOfFile_eq {text : String} {bytes : ByteArray}
    (found : tree.locationOf? path = .ok (some location))
    (held : tree.node? location = some (.file bytes))
    (same : encoding.cursor bytes = .ofText text) :
    FrameStream.framesOfFile path encoding tree =
      match Document.frames text with
      | .ok frames => .ok frames tree
      | .error fault => .error fault tree := by
  refine (bind_of_ok (openStream_eq found held) _).trans ?_
  rw [same]
  unfold Document.frames FrameStream.ofText
  cases (FrameStream.ofCursor (.ofText text)).drain <;> rfl

theorem framesOfFile_of_write (opens : Opens path tree grown location)
    (writable : ∀ frame ∈ frames, frame.Writable) {text : String} {bytes : ByteArray}
    (written : Document.write frames = .ok text)
    (encoded : encoding.encode? text.toList = some bytes) :
    FrameStream.framesOfFile path encoding (grown.put location (.file bytes)) =
      .ok (frames.map Frame.grouped) (grown.put location (.file bytes)) := by
  obtain ⟨again, joined, read⟩ := Document.frames_of_lines writable
  cases written.symm.trans joined
  rw [framesOfFile_eq (opens.locationOf?_put bytes) (opens.node?_put bytes)
    (cursor_of_write writable written encoded), read]

/-- When a list of frames is written to a file, their number is told, and the file holds their
text in the encoding, whatever it held before. What is read from it are the same frames, each with
its atoms grouped by species. When a frame cannot be written, the file holds the text of the
frames in front of it. Counts of atoms are held to the limit for numbers here as well. -/
theorem FileWriter.written_frames_are_read
    (created : create path encoding tree = .ok file made) (frames : List Frame) :
    (∀ count after, writeAll path encoding (frames.map .proper) tree = .ok count after →
      count = frames.length ∧
      ∃ text bytes, Document.write frames = .ok text ∧
        encoding.encode? text.toList = some bytes ∧
        after.find path = .ok (file.location, .file bytes) ∧
        ((∀ frame ∈ frames, ∀ count ∈ frame.atomsPerSpecies, WithinLimit count) →
          FrameStream.framesOfFile path encoding after =
            .ok (frames.map Frame.grouped) after)) ∧
    (∀ frame ∈ frames, ∃ blocks, group frame.atoms = .ok blocks ∧
      frame.grouped.atoms = flatten blocks ∧
      frame.grouped.preBox = frame.preBox ∧ frame.grouped.postBox = frame.postBox ∧
      frame.grouped.cell = frame.cell ∧ frame.grouped.angles = frame.angles) ∧
    ((∀ frame ∈ frames, accepts (some encoding) frame = true) →
      ∃ after, writeAll path encoding (frames.map .proper) tree = .ok frames.length after) ∧
    ∀ before bad later, frames = before ++ bad :: later →
      (∀ frame ∈ before, accepts (some encoding) frame = true) →
      accepts (some encoding) bad = false →
      ∃ fault after text bytes,
        writeAll path encoding (frames.map .proper) tree = .error fault after ∧
        Document.write before = .ok text ∧ encoding.encode? text.toList = some bytes ∧
        after.find path = .ok (file.location, .file bytes) := by
  obtain ⟨text, bytes, grown, written, encoded, opens, outcome⟩ := writeAll_cases created frames
  refine ⟨?_, ?_, ?_, ?_⟩
  · intro count after done
    rcases outcome with ⟨all, whole⟩ | ⟨⟨fault, failed⟩, -⟩
    · cases done.symm.trans all
      rw [whole] at written
      refine ⟨rfl, text, bytes, written, encoded, opens.find_put bytes, fun few => ?_⟩
      refine framesOfFile_of_write opens (fun frame member => ?_) written encoded
      have accepted := List.takeWhile_eq_self_iff.1 whole frame member
      obtain ⟨text, written⟩ := exists_write_of_accepts accepted
      exact Frame.writable_of_write written (few frame member)
    · cases failed.symm.trans done
  · intro frame member
    exact ⟨gather frame.atoms, group_of_massesAgree frame.massesEqual, rfl, rfl, rfl, rfl, rfl⟩
  · intro accepted
    rcases outcome with ⟨all, -⟩ | ⟨-, part⟩
    · exact ⟨_, all⟩
    · exact absurd (List.takeWhile_eq_self_iff.2 accepted) part
  · rintro before bad later rfl accepted refused
    have front : (before ++ bad :: later).takeWhile (accepts (some encoding)) = before := by
      rw [List.takeWhile_append_of_pos accepted, List.takeWhile_cons_of_neg (by simp [refused]),
        List.append_nil]
    rw [front] at written outcome
    rcases outcome with ⟨-, whole⟩ | ⟨⟨fault, failed⟩, -⟩
    · simp at whole
    · exact ⟨fault, _, text, bytes, failed, written, encoded, opens.find_put bytes⟩

/-- A file in a directory that is made for it. -/
theorem FileWriter.written_frames_are_read_scattered :
    ∃ file made, create (.ofText "new/out.con") .utf8 (.ofDirectory ["work"]) = .ok file made ∧
      ∃ after, writeAll (.ofText "new/out.con") .utf8
          ([Document.scattered, Document.scattered].map .proper) (.ofDirectory ["work"]) =
            .ok 2 after ∧
        FrameStream.framesOfFile (.ofText "new/out.con") .utf8 after =
          .ok [Document.scattered.grouped, Document.scattered.grouped] after := by
  have created : create (.ofText "new/out.con") .utf8 (.ofDirectory ["work"]) =
      .ok ⟨.ofName "new/out.con" (some .utf8), ["work", "new", "out.con"]⟩
        ⟨["work"], [(["work"], .directory), (["work", "new"], .directory),
          (["work", "new", "out.con"], .file .empty)]⟩ := by
    rfl
  have writable := Document.writable_scattered
  have accepted : ∀ frame ∈ [Document.scattered, Document.scattered],
      accepts (some .utf8) frame = true := by
    obtain ⟨lines, written, -⟩ := Frame.exists_lines writable
    have taken := accepts_utf8_iff.2 ⟨_, Frame.write_eq_ok written⟩
    simp [taken]
  obtain ⟨succeeds, -, complete, -⟩ :=
    written_frames_are_read created [Document.scattered, Document.scattered]
  obtain ⟨after, done⟩ := complete accepted
  obtain ⟨-, -, -, -, -, -, read⟩ := succeeds _ after done
  exact ⟨_, _, created, after, done, read (by simpa using writable.counts)⟩

end Files

end Atomistic
