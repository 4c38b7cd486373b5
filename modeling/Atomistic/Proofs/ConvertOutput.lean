import Atomistic.Proofs.ConvertInput
import Atomistic.Proofs.CopiedFrames
import Atomistic.Proofs.FileRoundTrip
import Atomistic.Proofs.StreamFaults

/-! What a conversion writes. The output is made before the input is read, and the input is looked
at as it is then. As long as the two are different files, the output holds the frames that were
asked for and nothing else. -/

namespace Atomistic

open Text

namespace FileTree.Opens

variable {path : FilePath} {tree grown : FileTree} {location : Location}

/-- Before directories were made the path led to the same place or to none. -/
theorem locationOf?_before (opens : Opens path tree grown location) :
    tree.locationOf? path = .ok none ∨ tree.locationOf? path = .ok (some location) := by
  unfold locationOf?
  rw [if_neg (Bool.eq_false_iff.1 opens.whole), find]
  rcases opens.grows.keepsDirectories.locate path with same | missing | blocked
  · rw [← same, opens.located, ok_bind]
    cases tree.node? location with
    | none => exact .inl rfl
    | some node => exact .inr rfl
  · rw [missing]
    exact .inl rfl
  · rw [blocked]
    exact .inl rfl

/-- Other files stay, and their paths still lead to them. -/
theorem find_other (opens : Opens path tree grown location) {other : FilePath} {place : Location}
    {node : FileNode} (found : tree.locationOf? other = .ok (some place))
    (held : tree.node? place = some node) (apart : location ≠ place) (bytes : ByteArray) :
    (grown.put location (.file bytes)).find other = .ok (place, node) := by
  obtain ⟨-, located, -⟩ := locationOf?_eq_some_iff.1 found
  have keeps := opens.grows.keepsDirectories.trans
    (keepsDirectories_put opens.notDirectory (.file bytes))
  refine find_eq_ok_iff.2 ⟨keeps.locate_eq_ok located, ?_⟩
  rw [FileTree.node?_put _ _ _ opens.below, if_neg apart.symm]
  exact opens.grows.kept _ _ held

end FileTree.Opens

namespace Command

open FileTree FrameWriter

variable {tree made : FileTree} {location : Location} {bytes : ByteArray} {file : FileWriter}
  {skip every : Nat}

theorem copyFile_of_create {input output : FilePath} (skip every : Nat)
    (opened : openFile input tree = .ok location tree)
    (created : FileWriter.create output .utf8 tree = .ok file made) {copy : Copy}
    (copied : copyFrames skip every (.ofCursor (Encoding.utf8.cursor (made.bytesAt location)))
      file.writer = copy) :
    copyFile input output skip every tree =
      .ok copy (made.put file.location (.file copy.writer.bytes)) := by
  subst copied
  exact (bind_of_ok opened _).trans (bind_of_ok created _)

/-- Between two different files a conversion copies, and then it only tells how that went. -/
theorem convert_eq_bind {input output : String} {session : Session}
    (different : session.tree.isSameFile (.ofText input) (.ofText output) = .ok false) :
    ∃ (begun : Session) (tell : Copy → Running Unit), begun.tree = session.tree ∧
      convert input output skip every session =
        (withFiles (cannotConvert (.ofText input))
          (copyFile (.ofText input) (.ofText output) skip every) >>= tell) begun ∧
      ∀ copy middle,
        (∀ fault, copy.fault? = some fault →
          tell copy middle = .error (cannotConvert (.ofText input) fault) middle) ∧
        (copy.fault? = none → ∃ ended, tell copy middle = .ok () ended ∧
          ended.tree = middle.tree) := by
  unfold convert
  rw [get_bind, different]
  simp only [Bool.false_eq_true, if_false]
  obtain ⟨begun, told, same, -⟩ := inform_eq
    ("Converting " ++ (FilePath.ofText input).text ++ " -> " ++ (FilePath.ofText output).text ++
      " (skip=" ++ toString skip ++ ", every=" ++ toString every ++ ")") session
  refine ⟨begun, _, same, bind_of_ok told _, fun copy middle => ⟨?_, ?_⟩⟩
  · intro fault stopped
    rw [stopped]
    rfl
  · intro faultless
    rw [faultless]
    obtain ⟨last, summed, kept, -⟩ := inform_eq ("Wrote " ++ toString copy.writer.framesWritten ++
      " frame(s), skipped " ++ toString copy.stream.framesSkipped) middle
    exact ⟨_, (bind_of_ok summed _).trans rfl, kept⟩

/-- How a conversion ends when a fault stopped the copy, and when none did. -/
def conclusionOf (input : FilePath) : Option Fault → Conclusion
  | some fault => (cannotConvert input fault).conclusion
  | none => .exits 0

theorem run_of_copy {arguments : List String} {verbose : Bool} {input output : String} {copy : Copy}
    (asked : parse? arguments = some ⟨verbose, .convert input output skip every⟩)
    (different : tree.isSameFile (.ofText input) (.ofText output) = .ok false)
    (copied : copyFile (.ofText input) (.ofText output) skip every tree = .ok copy made) :
    (run arguments tree).conclusion = conclusionOf (.ofText input) copy.fault? ∧
      (run arguments tree).tree = made := by
  obtain ⟨begun, tell, same, begins, told⟩ :=
    @convert_eq_bind skip every input output ⟨tree, "", "", verbose⟩ different
  have worked : withFiles (cannotConvert (.ofText input))
      (copyFile (.ofText input) (.ofText output) skip every) begun =
        .ok copy { begun with tree := made } := by
    rw [withFiles, same, copied]
  rw [bind_of_ok worked] at begins
  obtain ⟨stopped, finished⟩ := told copy { begun with tree := made }
  cases fault? : copy.fault? with
  | some fault =>
    rw [run_of_stop asked (begins.trans (stopped fault fault?))]
    exact ⟨rfl, rfl⟩
  | none =>
    obtain ⟨ended, done, kept⟩ := finished fault?
    rw [run_of_ok asked (begins.trans done)]
    exact ⟨rfl, kept⟩

theorem run_of_failure {arguments : List String} {verbose : Bool} {input output : String}
    {fault : Fault} (asked : parse? arguments = some ⟨verbose, .convert input output skip every⟩)
    (different : tree.isSameFile (.ofText input) (.ofText output) = .ok false)
    (failed : copyFile (.ofText input) (.ofText output) skip every tree = .error fault made) :
    (run arguments tree).conclusion = conclusionOf (.ofText input) (some fault) ∧
      (run arguments tree).tree = made := by
  obtain ⟨begun, tell, same, begins, -⟩ :=
    @convert_eq_bind skip every input output ⟨tree, "", "", verbose⟩ different
  have stopped : withFiles (cannotConvert (.ofText input))
      (copyFile (.ofText input) (.ofText output) skip every) begun =
        .error (cannotConvert (.ofText input) fault) { begun with tree := made } := by
    rw [withFiles, same, failed]
  rw [bind_of_error stopped] at begins
  rw [run_of_stop asked begins]
  exact ⟨rfl, rfl⟩

/-- An output that is made somewhere else is another file. -/
theorem isSameFile_of_create {input : FilePath} {output : FilePath}
    (found : tree.locationOf? input = .ok (some location))
    (created : FileWriter.create output .utf8 tree = .ok file made)
    (apart : file.location ≠ location) : tree.isSameFile input output = .ok false := by
  obtain ⟨-, grown, opens, -⟩ := FileWriter.opens_of_create created
  rw [isSameFile_eq found]
  rcases opens.locationOf?_before with nowhere | there
  · rw [nowhere]
    rfl
  · rw [there, Except.map, decide_eq_false fun same => apart (Option.some.inj same)]

/-- A conversion to another file leaves what the copy has written, however the copy ended. -/
theorem run_of_copyFrames {arguments : List String} {verbose : Bool} {input output : String}
    {fault? : Option Fault} {last : FrameStream} {frames : List Frame} {text : String}
    (asked : parse? arguments = some ⟨verbose, .convert input output skip every⟩)
    (found : tree.locationOf? (.ofText input) = .ok (some location))
    (held : tree.node? location = some (.file bytes))
    (created : FileWriter.create (.ofText output) .utf8 tree = .ok file made)
    (apart : file.location ≠ location)
    (copied : copyFrames skip every (.ofCursor (Encoding.utf8.cursor bytes)) file.writer =
      ⟨fault?, last, file.writer.extended frames text⟩) :
    ∃ grown, Opens (.ofText output) tree grown file.location ∧
      (run arguments tree).conclusion = conclusionOf (.ofText input) fault? ∧
      (run arguments tree).tree = grown.put file.location (.file text.toUTF8) := by
  obtain ⟨begun, grown, opens, rfl⟩ := FileWriter.opens_of_create created
  have different := isSameFile_of_create found created apart
  have source : (grown.put file.location (.file .empty)).bytesAt location = bytes := by
    rw [bytesAt, FileTree.node?_put _ _ _ opens.below, if_neg apart.symm,
      opens.grows.kept _ _ held]
  have encoded : Encoding.utf8.encode? text.toList = some text.toUTF8 := by
    rw [Encoding.encode?_utf8, String.ofList_toList]
  rw [← source] at copied
  have saved := copyFile_of_create skip every (openFile_eq_ok found held) created copied
  rw [begun, bytes_extended _ encoded, put_put] at saved
  exact ⟨grown, opens, run_of_copy asked different saved⟩

/-- A conversion of text that splits into frames, to another file, exits without a fault. Its
output holds the text of the frames that were selected. -/
theorem run_of_selects {arguments : List String} {verbose : Bool} {input output : String}
    {text : List Char} {pieces : List (List Line)} {frames : List Frame}
    (asked : parse? arguments = some ⟨verbose, .convert input output skip every⟩)
    (positive : 0 < every)
    (found : tree.locationOf? (.ofText input) = .ok (some location))
    (held : tree.node? location = some (.file bytes))
    (decoded : Encoding.utf8.decode? bytes = some text)
    (splits : SplitsInto (rawLines (withLineFeeds text)) pieces)
    (selects : Selects skip every pieces frames)
    (created : FileWriter.create (.ofText output) .utf8 tree = .ok file made)
    (apart : file.location ≠ location) :
    ∃ thinned grown, Document.write frames = .ok thinned ∧
      Opens (.ofText output) tree grown file.location ∧
      (run arguments tree).conclusion = .exits 0 ∧
      (run arguments tree).tree = grown.put file.location (.file thinned.toUTF8) := by
  obtain ⟨begun, -⟩ := FileWriter.opens_of_create created
  obtain ⟨thinned, last, written, copied⟩ :=
    copyFrames_of_selects splits positive selects (FilePath.ofText output).text
  rw [← Encoding.cursor_of_decode? decoded, ← begun] at copied
  obtain ⟨grown, opens, done⟩ := run_of_copyFrames asked found held created apart copied
  exact ⟨thinned, grown, written, opens, done⟩

/-- The text of frames that were read splits into these frames again. -/
theorem splits_of_readBack {frames : List Frame} {text : String}
    (readBack : ∀ frame ∈ frames, frame.Writable ∧ frame.grouped = frame)
    (written : Document.write frames = .ok text) :
    ∃ pieces, SplitsInto (rawLines (withLineFeeds text.toList)) pieces ∧
      Selects 0 1 pieces frames := by
  have writable := fun frame member => (readBack frame member).1
  have normal : frames.map Frame.grouped = frames :=
    (List.map_congr_left fun frame member => (readBack frame member).2).trans (List.map_id frames)
  obtain ⟨same, pieces, again, splits, reads⟩ := splitsInto_of_write writable
  cases written.symm.trans again
  rw [normal] at reads
  rw [withLineFeeds_of_no_return (no_return_of_write writable written)]
  exact ⟨pieces, splits, selects_all reads⟩

/-- A conversion of text that splits into frames leaves out some in front and then keeps one of
every so many. It needs to be able to read the ones that it keeps only. The input stays as it was,
and to convert the output again gives the same bytes. -/
theorem convert_thins {arguments : List String} {verbose : Bool} {input output : String}
    {text : List Char} {pieces : List (List Line)} {frames : List Frame}
    (asked : parse? arguments = some ⟨verbose, .convert input output skip every⟩)
    (positive : 0 < every)
    (found : tree.locationOf? (.ofText input) = .ok (some location))
    (held : tree.node? location = some (.file bytes))
    (decoded : Encoding.utf8.decode? bytes = some text)
    (splits : SplitsInto (rawLines (withLineFeeds text)) pieces)
    (selects : Selects skip every pieces frames)
    (created : FileWriter.create (.ofText output) .utf8 tree = .ok file made)
    (apart : file.location ≠ location) :
    ∃ thinned, Document.write frames = .ok thinned ∧
      (pieces.length ≤ skip → thinned = "") ∧
      (run arguments tree).conclusion = .exits 0 ∧
      (run arguments tree).tree.find (.ofText output) =
        .ok (file.location, .file thinned.toUTF8) ∧
      (run arguments tree).tree.find (.ofText input) = .ok (location, .file bytes) ∧
      ∀ again loud third copy after,
        parse? again = some ⟨loud, .convert output third 0 1⟩ →
        FileWriter.create (.ofText third) .utf8 (run arguments tree).tree = .ok copy after →
        copy.location ≠ file.location →
        (run again (run arguments tree).tree).conclusion = .exits 0 ∧
          (run again (run arguments tree).tree).tree.find (.ofText third) =
            .ok (copy.location, .file thinned.toUTF8) := by
  obtain ⟨thinned, grown, written, opens, exits, result⟩ :=
    run_of_selects asked positive found held decoded splits selects created apart
  rw [result]
  refine ⟨thinned, written, ?_, exits, opens.find_put _, opens.find_other found held apart _, ?_⟩
  · intro few
    have none := selects.drop
    rw [List.drop_eq_nil_of_le few] at none
    obtain rfl := none.nil
    cases written
    rfl
  · intro again loud third copy after askedAgain createdAgain apartAgain
    obtain ⟨piecesAgain, splitsAgain, selectsAgain⟩ := splits_of_readBack selects.readBack written
    obtain ⟨_, grownAgain, writtenTwice, opensAgain, exitsAgain, resultAgain⟩ :=
      run_of_selects askedAgain Nat.one_pos (opens.locationOf?_put _) (opens.node?_put _)
        (Encoding.decode?_toUTF8 thinned) splitsAgain selectsAgain createdAgain apartAgain
    cases written.symm.trans writtenTwice
    rw [resultAgain]
    exact ⟨exitsAgain, opensAgain.find_put _⟩

/-- No line of the first frame can be read, but for those with its counts. -/
def unreadablePiece : List Line :=
  ["x\n", "x\n", "x\n", "x\n", "x\n", "x\n", "0\n", "\n", "x\n"].map String.toList

def readablePiece : List Line :=
  ["a\n", "b\n", "1 1 1\n", "90 90 90\n", "c\n", "d\n", "0\n", "\n", "\n"].map String.toList

def unreadableFrontText : String :=
  String.ofList (unreadablePiece ++ readablePiece).flatten

def unreadableFront : FileTree :=
  ⟨["work"], [(["work"], .directory),
    (["work", "in.con"], .file unreadableFrontText.toUTF8)]⟩

theorem convert_thins_unreadable :
    ∃ thinned, Document.write [FrameStream.innerFrame] = .ok thinned ∧
      (run ["convert", "--skip", "1", "in.con", "out.con"] unreadableFront).conclusion =
        .exits 0 ∧
      (run ["convert", "--skip", "1", "in.con", "out.con"] unreadableFront).tree.find
        (.ofText "out.con") = .ok (["work", "out.con"], .file thinned.toUTF8) := by
  have splits : SplitsInto (rawLines (withLineFeeds unreadableFrontText.toList))
      [unreadablePiece, readablePiece] := by
    have cut : rawLines (withLineFeeds unreadableFrontText.toList) =
        unreadablePiece ++ (readablePiece ++ []) := by
      decide +kernel
    rw [cut]
    refine @SplitsInto.frame _ _ _ ⟨readablePiece, .clean, [], 9, 9⟩ (by decide +kernel) rfl ?_
    exact @SplitsInto.frame _ _ _ ⟨[], .clean, [], 9, 9⟩ (by decide +kernel) rfl (.blank rfl)
  have selects : Selects 1 1 [unreadablePiece, readablePiece] [FrameStream.innerFrame] := by
    intro index
    cases index with
    | zero => exact .some ⟨⟨[], .clean, [], 9, 9⟩, by decide +kernel⟩
    | succ index =>
      have place : 1 + (index + 1) * 1 = index + 1 + 1 := by omega
      rw [place]
      exact .none
  have created : FileWriter.create (.ofText "out.con") .utf8 unreadableFront =
      .ok ⟨.ofName "out.con" (some .utf8), ["work", "out.con"]⟩
        (unreadableFront.put ["work", "out.con"] (.file .empty)) := by
    rfl
  obtain ⟨thinned, written, -, exits, output, -⟩ :=
    @convert_thins unreadableFront _ ["work", "in.con"] unreadableFrontText.toUTF8 _ 1 1
      ["convert", "--skip", "1", "in.con", "out.con"] false "in.con" "out.con" _ _ _
      (by decide +kernel) (by decide) (by decide +kernel) (by decide +kernel)
      (Encoding.decode?_toUTF8 _) splits selects created (by decide +kernel)
  exact ⟨thinned, written, exits, output⟩

end Command

end Atomistic
