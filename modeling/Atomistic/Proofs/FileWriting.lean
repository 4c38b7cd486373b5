import Atomistic.Files.Trajectory
import Atomistic.Proofs.EncodedText
import Atomistic.Proofs.FileTreeChanges
import Atomistic.Proofs.WriterCalls

/-! Frames that are written to a file. The file is there, and empty, before the first frame is
written; in the end it holds the frames that the writer took, and everything else in the tree is
as before, but for directories that were made. -/

namespace Atomistic

namespace FrameWriter

variable {encoding : Encoding} {writer : FrameWriter} {frames : List Frame}

/-- A writer for an encoding takes only what the encoding can express, so the text of all the
frames that it took can be expressed too. -/
theorem encode?_of_accepts {text : String} (written : Document.write frames = .ok text)
    (accepted : ∀ frame ∈ frames, accepts (some encoding) frame = true) :
    ∃ bytes, encoding.encode? text.toList = some bytes := by
  induction frames generalizing text with
  | nil =>
    cases written
    cases encoding <;> exact ⟨_, rfl⟩
  | cons frame rest ih =>
    obtain ⟨here, others⟩ := List.forall_mem_cons.1 accepted
    obtain ⟨first, frameWritten, done⟩ := result_bind_eq_ok_iff.1 written
    obtain ⟨later, restWritten, done⟩ := result_bind_eq_ok_iff.1 done
    cases done
    obtain ⟨bytes, encoded⟩ := ih restWritten others
    simp only [accepts, frameWritten, Option.all_some] at here
    rw [String.toList_append, ← Option.isSome_iff_exists, Encoding.isSome_encode?_append, here,
      encoded]
    rfl

theorem exists_write_of_accepts {encoding? : Option Encoding} {frame : Frame}
    (accepted : accepts encoding? frame = true) : ∃ text, frame.write = .ok text := by
  unfold accepts at accepted
  cases written : frame.write with
  | ok text => exact ⟨text, rfl⟩
  | error fault => simp [written] at accepted

theorem accepts_utf8_iff {frame : Frame} :
    accepts (some .utf8) frame = true ↔ ∃ text, frame.write = .ok text := by
  unfold accepts
  cases frame.write <;> simp [Encoding.encode?_utf8]

/-- A new writer that took frames holds the bytes of their text. -/
theorem bytes_extended (name : String) {text : String} {bytes : ByteArray}
    (encoded : encoding.encode? text.toList = some bytes) (frames : List Frame) :
    ((ofName name (some encoding)).extended frames text).bytes = bytes := by
  simp [FrameWriter.bytes, extended, ofName, encoded]

theorem front_proper (encoding? : Option Encoding) (frames : List Frame) :
    front encoding? (frames.map .proper) = frames.takeWhile (accepts encoding?) := by
  induction frames with
  | nil => rfl
  | cons frame rest ih =>
    unfold front at ih ⊢
    rw [List.map_cons, Supplied.leading, List.takeWhile_cons, List.takeWhile_cons, ih]

end FrameWriter

namespace FileTree

theorem put_put (tree : FileTree) (location : Location) (node other : FileNode) :
    (tree.put location node).put location other = tree.put location other := by
  have twice : ∀ entries, putEntry location other (putEntry location node entries) =
      putEntry location other entries := by
    intro entries
    induction entries with
    | nil => simp [putEntry]
    | cons entry rest ih => by_cases here : entry.1 = location <;> simp [putEntry, here, ih]
  exact congrArg (FileTree.mk tree.workingDirectory) (twice tree.entries)

/-- A file can be put there for the path, once the tree has grown by directories. -/
structure Opens (path : FilePath) (tree made : FileTree) (location : Location) : Prop where
  whole : path.hasNull = false
  grows : tree.GrowsTo made
  located : made.locate path = .ok location
  notDirectory : made.node? location ≠ some .directory

namespace Opens

variable {path : FilePath} {tree made : FileTree} {location : Location}

theorem below (opens : Opens path tree made location) : location ≠ [] :=
  ne_nil_of_node? rfl opens.notDirectory

theorem node?_put (opens : Opens path tree made location) (bytes : ByteArray) :
    (made.put location (.file bytes)).node? location = some (.file bytes) := by
  rw [FileTree.node?_put _ _ _ opens.below, if_pos rfl]

theorem locate_put (opens : Opens path tree made location) (bytes : ByteArray) :
    (made.put location (.file bytes)).locate path = .ok location :=
  (keepsDirectories_put opens.notDirectory _).locate_eq_ok opens.located

theorem find_put (opens : Opens path tree made location) (bytes : ByteArray) :
    (made.put location (.file bytes)).find path = .ok (location, .file bytes) :=
  find_eq_ok_iff.2 ⟨opens.locate_put bytes, opens.node?_put bytes⟩

theorem locationOf?_put (opens : Opens path tree made location) (bytes : ByteArray) :
    (made.put location (.file bytes)).locationOf? path = .ok (some location) :=
  locationOf?_eq_some_iff.2 ⟨opens.whole, opens.locate_put bytes, _, opens.node?_put bytes⟩

end Opens

end FileTree

namespace FileWriter

open FileTree FrameWriter

variable {path : FilePath} {encoding : Encoding} {tree made : FileTree} {file : FileWriter}

theorem opens_of_create (created : create path encoding tree = .ok file made) :
    file.writer = .ofName path.text (some encoding) ∧ ∃ grown, Opens path tree grown file.location ∧
      made = grown.put file.location (.file .empty) := by
  obtain ⟨_, grown, ensured, created⟩ := bind_eq_ok_iff.1 created
  obtain ⟨location, after, opened, done⟩ := bind_eq_ok_iff.1 created
  cases done
  have grows := onlyAdds_ensureDirectories path.parent tree
  rw [ensured] at grows
  rcases createFile_cases path grown with
    ⟨fault, failed⟩ | ⟨target, opened', whole, located, notDirectory⟩
  · cases failed.symm.trans opened
  · cases opened'.symm.trans opened
    exact ⟨rfl, grown, ⟨whole, grows, located, notDirectory⟩, rfl⟩

theorem writeAll_of_create (created : create path encoding tree = .ok file made)
    (items : List (Supplied Frame)) :
    writeAll path encoding items tree =
      match append items file.writer with
      | .ok _ writer =>
        .ok writer.framesWritten (made.put file.location (.file writer.bytes))
      | .error fault writer => .error fault (made.put file.location (.file writer.bytes)) := by
  refine (bind_of_ok created _).trans ?_
  cases append items file.writer <;> rfl

/-- The file holds the frames in front that the writer takes, and writing fails unless these are
all there is. -/
theorem writeAll_cases (created : create path encoding tree = .ok file made)
    (frames : List Frame) :
    ∃ text bytes grown, Document.write (frames.takeWhile (accepts (some encoding))) = .ok text ∧
      encoding.encode? text.toList = some bytes ∧ Opens path tree grown file.location ∧
      ((writeAll path encoding (frames.map .proper) tree =
            .ok frames.length (grown.put file.location (.file bytes)) ∧
          frames.takeWhile (accepts (some encoding)) = frames) ∨
        ((∃ fault, writeAll path encoding (frames.map .proper) tree =
            .error fault (grown.put file.location (.file bytes))) ∧
          frames.takeWhile (accepts (some encoding)) ≠ frames)) := by
  obtain ⟨begun, grown, opens, rfl⟩ := opens_of_create created
  obtain ⟨text, written, outcome⟩ := appendEach_cases (frames.map .proper) file.writer
  have opened : file.writer.closed = false := by rw [begun, ofName]
  have expressed : file.writer.encoding? = some encoding := by rw [begun, ofName]
  have proper : Function.Injective (List.map (Supplied.proper : Frame → Supplied Frame)) :=
    List.map_injective_iff.2 fun _ _ => Supplied.proper.inj
  rw [expressed, front_proper] at written outcome
  rw [proper.eq_iff, proper.ne_iff] at outcome
  obtain ⟨bytes, encoded⟩ := encode?_of_accepts written fun frame member =>
    List.mem_takeWhile_imp member
  have held : (file.writer.extended (frames.takeWhile (accepts (some encoding))) text).bytes =
      bytes := by
    rw [begun, bytes_extended path.text encoded]
  refine ⟨text, bytes, grown, written, encoded, opens, ?_⟩
  rw [writeAll_of_create created, append_of_open opened]
  rcases outcome with ⟨done, whole⟩ | ⟨⟨fault, failed⟩, part⟩
  · refine .inl ⟨?_, whole⟩
    have count : (file.writer.extended (frames.takeWhile (accepts (some encoding)))
        text).framesWritten = frames.length := by
      rw [begun, extended, ofName, Nat.zero_add, whole]
    rw [done]
    simp only [put_put, held, count]
  · refine .inr ⟨⟨fault, ?_⟩, part⟩
    rw [failed]
    simp only [put_put, held]

end FileWriter

end Atomistic
