import Atomistic.Command.Run
import Atomistic.Proofs.CopiedFrames

/-! What becomes of the file that a copy reads. Input and output are compared before the
directories above the output are made, so an output that leads nowhere yet passes for another
file, even if it is the input once they are there. -/

namespace Atomistic

open FileTree

/-- The path leads nowhere now, and to this place once the directories above it are made. -/
def FileTree.LeadsBack (tree : FileTree) (path : FilePath) (location : Location) : Prop :=
  tree.locationOf? path = .ok none ∧
    ∃ made, ensureDirectories path.parent tree = .ok () made ∧
      made.locationOf? path = .ok (some location)

variable {tree : FileTree} {input output : FilePath} {location : Location} {bytes : ByteArray}

theorem FilePath.hasNull_parent {path : FilePath} (whole : path.hasNull = false) :
    path.parent.hasNull = false := by
  unfold FilePath.hasNull at whole ⊢
  rw [List.any_eq_false] at whole ⊢
  exact fun name member => whole name ((List.dropLast_sublist _).subset member)

/-- Where the directory of the output is there already, the comparison is right. -/
theorem FileTree.not_leadsBack_of_isDirectory (directory : tree.isDirectory output.parent = true) :
    ¬ tree.LeadsBack output location := by
  intro leads
  obtain ⟨nowhere, made, built, found⟩ := leads
  obtain ⟨whole, -⟩ := locationOf?_eq_some_iff.1 found
  rw [ensureDirectories_of_isDirectory (FilePath.hasNull_parent whole) directory] at built
  cases built
  rw [nowhere] at found
  cases found

namespace Command

section Copies

/-- Out of a file without bytes no frame is copied. -/
theorem copyFrames_empty (skip every : Nat) (writer : FrameWriter) :
    (copyFrames skip every (.ofCursor (Encoding.utf8.cursor .empty)) writer).writer = writer := by
  have cursor : Encoding.utf8.cursor .empty = .ofLines [] := by decide +kernel
  rw [cursor]
  have passed : ∃ ended, FrameStream.forwardUpTo skip (.ofCursor (.ofLines [])) =
      .ok 0 { FrameStream.ofCursor (.ofLines []) with ended } := by
    cases skip with
    | zero => exact ⟨false, rfl⟩
    | succ skip => exact ⟨true, rfl⟩
  obtain ⟨ended, passed⟩ := passed
  have next : FrameStream.next { FrameStream.ofCursor (.ofLines []) with ended } =
      .ok none { FrameStream.ofCursor (.ofLines []) with ended := true } := by
    cases ended <;> rfl
  rw [copyFrames, passed]
  dsimp only
  rw [copySelected_of_none next]

theorem bytes_ofName (name : String) : (FrameWriter.ofName name (some .utf8)).bytes = .empty := by
  rfl

theorem copyFile_eq (skip every : Nat) (opened : openFile input tree = .ok location tree) :
    copyFile input output skip every tree =
      match ensureDirectories output.parent tree with
      | .error fault made => .error fault made
      | .ok _ made =>
        match createFile output made with
        | .error fault after => .error fault after
        | .ok target after =>
          let copy := copyFrames skip every
            (.ofCursor (Encoding.utf8.cursor (after.bytesAt location)))
            (.ofName output.text (some .utf8))
          .ok copy (after.put target (.file copy.writer.bytes)) := by
  unfold copyFile FileWriter.create
  rw [bind_of_ok opened]
  cases ensured : ensureDirectories output.parent tree with
  | error fault made => exact bind_of_error (bind_of_error ensured _) _
  | ok _ made =>
    dsimp only
    cases created : createFile output made with
    | error fault after =>
      exact bind_of_error ((bind_of_ok ensured _).trans (bind_of_error created _)) _
    | ok target after =>
      refine (bind_of_ok ((bind_of_ok ensured _).trans (bind_of_ok created _)) _).trans ?_
      rfl

/-- The input is emptied when the output leads back to it, and is left alone otherwise. -/
theorem node?_copyFile (skip every : Nat) (found : tree.locationOf? input = .ok (some location))
    (held : tree.node? location = some (.file bytes))
    {other : Option Location} (looked : tree.locationOf? output = .ok other)
    (differ : other ≠ some location) :
    (tree.LeadsBack output location ∧
        (stateAfter (copyFile input output skip every tree)).node? location =
          some (.file .empty)) ∨
      (¬ tree.LeadsBack output location ∧
        (stateAfter (copyFile input output skip every tree)).node? location =
          some (.file bytes)) := by
  rw [copyFile_eq skip every (openFile_eq_ok found held)]
  have grows := onlyAdds_ensureDirectories output.parent tree
  cases ensured : ensureDirectories output.parent tree with
  | error fault made =>
    rw [ensured] at grows
    refine .inr ⟨?_, grows.kept location _ held⟩
    rintro ⟨-, _, built, -⟩
    cases ensured.symm.trans built
  | ok _ made =>
    rw [ensured] at grows
    have there : made.node? location = some (.file bytes) := grows.kept location _ held
    have below : location ≠ [] := ne_nil_of_node? there (by simp)
    dsimp only
    by_cases leads : made.locationOf? output = .ok (some location)
    · have nowhere : tree.locationOf? output = .ok none := by
        cases other with
        | none => exact looked
        | some place =>
          cases (grows.locationOf? looked).symm.trans leads
          exact absurd rfl differ
      refine .inl ⟨⟨nowhere, made, ensured, leads⟩, ?_⟩
      have emptied : (made.put location (.file .empty)).bytesAt location = .empty := by
        rw [bytesAt, node?_put _ _ _ below, if_pos rfl]
      rw [createFile_of_file leads there]
      simp only [emptied, copyFrames_empty, bytes_ofName, stateAfter]
      rw [node?_put _ _ _ below, if_pos rfl]
    · refine .inr ⟨?_, ?_⟩
      · rintro ⟨-, again, built, found⟩
        cases ensured.symm.trans built
        exact leads found
      · rcases createFile_cases output made with
          ⟨fault, failed⟩ | ⟨target, created, whole, located, notDirectory⟩
        · rw [failed]
          exact there
        · have apart : location ≠ target := by
            rintro rfl
            exact leads (locationOf?_eq_some_iff.2 ⟨whole, located, _, there⟩)
          have below : target ≠ [] := ne_nil_of_node? rfl notDirectory
          rw [created]
          simp only [stateAfter]
          rw [node?_put _ _ _ below, if_neg apart, node?_put _ _ _ below, if_neg apart]
          exact there

end Copies

section Runs

/-- Messages and lines that are printed do not touch the files. -/
def KeepsFiles {α : Type} (running : Running α) : Prop :=
  ∀ session, (stateAfter (running session)).tree = session.tree

/-- Where the rest keeps the files, the first step decides on them. -/
theorem tree_bind {α β : Type} {first : Running α} {next : α → Running β}
    (after : ∀ value, KeepsFiles (next value)) (session : Session) :
    (stateAfter ((first >>= next) session)).tree = (stateAfter (first session)).tree := by
  rw [stateAfter_bind]
  cases first session with
  | ok value middle => exact after value middle
  | error stop middle => rfl

/-- A message comes first, and what follows works on the same files. -/
theorem tree_inform_bind {α : Type} {message : String} {next : Running α} {session : Session}
    {tree : FileTree}
    (rest : ∀ begun : Session, begun.tree = session.tree → (stateAfter (next begun)).tree = tree) :
    (stateAfter ((inform message >>= fun _ => next) session)).tree = tree := by
  obtain ⟨begun, informed, same, -⟩ := inform_eq message session
  rw [bind_of_ok informed]
  exact rest begun same

theorem tree_withFiles {α : Type} (stop : Fault → Stop) (filing : Filing α) (session : Session) :
    (stateAfter (withFiles stop filing session)).tree = stateAfter (filing session.tree) := by
  unfold withFiles
  cases filing session.tree <;> rfl

theorem tree_convert (inputText outputText : String) (skip every : Nat) (session : Session) :
    (stateAfter (convert inputText outputText skip every session)).tree =
      match session.tree.isSameFile (.ofText inputText) (.ofText outputText) with
      | .ok false => stateAfter
          (copyFile (.ofText inputText) (.ofText outputText) skip every session.tree)
      | _ => session.tree := by
  unfold convert
  rw [get_bind]
  cases session.tree.isSameFile (.ofText inputText) (.ofText outputText) with
  | error fault => rfl
  | ok isSame =>
    cases isSame with
    | true => rfl
    | false =>
      simp only [Bool.false_eq_true, if_false]
      refine tree_inform_bind fun begun same => ?_
      refine (tree_bind (fun copy => ?_) begun).trans ?_
      · cases copy.fault? with
        | some fault => exact fun _ => rfl
        | none => exact fun ended => tree_inform_bind fun _ same => same
      · rw [tree_withFiles, same]

theorem convert_same {inputText outputText : String} (skip every : Nat) {session : Session}
    (same : session.tree.isSameFile (.ofText inputText) (.ofText outputText) = .ok true) :
    convert inputText outputText skip every session =
      .error (.badParameter ("output path is the input file: " ++
        (FilePath.ofText outputText).text)) session := by
  unfold convert
  rw [get_bind, same]
  rfl

theorem run_of_ok {arguments : List String} {invocation : Invocation} {ended : Session}
    (asked : parse? arguments = some invocation)
    (done : act invocation.action ⟨tree, "", "", invocation.verbose⟩ = .ok () ended) :
    run arguments tree = ⟨.exits 0, ended.stdout, ended.stderr, ended.tree⟩ := by
  simp only [run, asked, done]

theorem run_of_stop {arguments : List String} {invocation : Invocation} {stop : Stop}
    {ended : Session} (asked : parse? arguments = some invocation)
    (stopped : act invocation.action ⟨tree, "", "", invocation.verbose⟩ = .error stop ended) :
    run arguments tree = ⟨stop.conclusion, ended.stdout, ended.stderr, ended.tree⟩ := by
  simp only [run, asked, stopped]

theorem tree_run {arguments : List String} {invocation : Invocation}
    (asked : parse? arguments = some invocation) (tree : FileTree) :
    (run arguments tree).tree =
      (stateAfter (act invocation.action ⟨tree, "", "", invocation.verbose⟩)).tree := by
  cases done : act invocation.action ⟨tree, "", "", invocation.verbose⟩ with
  | ok value ended => rw [run_of_ok asked done, stateAfter]
  | error stop ended => rw [run_of_stop asked done, stateAfter]

theorem isSameFile_eq (found : tree.locationOf? input = .ok (some location)) :
    tree.isSameFile input output =
      (tree.locationOf? output).map fun other => decide (other = some location) := by
  unfold isSameFile
  rw [found, ok_bind]
  cases tree.locationOf? output <;> rfl

/-- The input stays as it was, unless the output turns out to lead to it. -/
theorem node?_run_convert_iff {arguments : List String} {verbose : Bool}
    {input output : String} {skip every : Nat}
    (asked : parse? arguments = some ⟨verbose, .convert input output skip every⟩)
    (found : tree.locationOf? (.ofText input) = .ok (some location))
    (held : tree.node? location = some (.file bytes)) :
    (run arguments tree).tree.node? location = some (.file bytes) ↔
      bytes = .empty ∨ ¬ tree.LeadsBack (.ofText output) location := by
  rw [tree_run asked, act, tree_convert, @isSameFile_eq _ _ (.ofText output) _ found]
  have elsewhere (leads : tree.locationOf? (.ofText output) ≠ .ok none) :
      ¬ tree.LeadsBack (.ofText output) location := fun back => leads back.1
  cases looked : tree.locationOf? (.ofText output) with
  | error fault => simp [held, elsewhere (by simp [looked]), Except.map]
  | ok other =>
    by_cases differ : other = some location
    · simp [held, elsewhere (by simp [looked, differ]), Except.map, differ]
    · simp only [Except.map, decide_eq_false differ]
      rcases node?_copyFile skip every found held looked differ with
        ⟨leads, emptied⟩ | ⟨elsewhere, kept⟩
      · simp [emptied, leads, eq_comm]
      · simp [kept, elsewhere]

/-- A conversion leaves the file that it reads as it was, unless the output leads nowhere when
the two are compared and back to the input when it is opened: then nothing of the file is left.
An output that leads to the input from the start is refused before anything is done, and where
the directory of the output is there already, the input is safe. -/
theorem convert_keeps_input_iff {arguments : List String} {verbose : Bool}
    {input output : String} {skip every : Nat}
    (asked : parse? arguments = some ⟨verbose, .convert input output skip every⟩)
    (found : tree.locationOf? (.ofText input) = .ok (some location))
    (held : tree.node? location = some (.file bytes)) :
    ((run arguments tree).tree.node? location = some (.file bytes) ↔
      bytes = .empty ∨ ¬ tree.LeadsBack (.ofText output) location) ∧
    (tree.locationOf? (.ofText output) = .ok (some location) →
      run arguments tree = ⟨.badParameter ("output path is the input file: " ++
        (FilePath.ofText output).text), "", "", tree⟩) ∧
    (tree.isDirectory (FilePath.ofText output).parent = true →
      (run arguments tree).tree.node? location = some (.file bytes)) := by
  have kept_iff := node?_run_convert_iff asked found held
  refine ⟨kept_iff, fun looked => ?_, fun directory => ?_⟩
  · have same := @isSameFile_eq _ (.ofText input) (.ofText output) _ found
    simp only [looked, Except.map, decide_true] at same
    unfold run
    rw [asked]
    dsimp only
    rw [act, @convert_same input output skip every ⟨tree, "", "", verbose⟩ same]
    rfl
  · exact kept_iff.2 (.inr (FileTree.not_leadsBack_of_isDirectory directory))

/-- A working directory with one file in it. -/
def oneFile : FileTree :=
  ⟨["work"], [(["work"], .directory), (["work", "in.con"], .file "kept\n".toUTF8)]⟩

theorem convert_keeps_input_iff_beside :
    ((run ["convert", "in.con", "./out.con"] oneFile).tree.node? ["work", "in.con"] =
        some (.file "kept\n".toUTF8) ↔
      "kept\n".toUTF8 = .empty ∨ ¬ oneFile.LeadsBack (.ofText "./out.con") ["work", "in.con"]) ∧
    (oneFile.locationOf? (.ofText "./out.con") = .ok (some ["work", "in.con"]) →
      run ["convert", "in.con", "./out.con"] oneFile =
        ⟨.badParameter ("output path is the input file: " ++ (FilePath.ofText "./out.con").text),
          "", "", oneFile⟩) ∧
    (run ["convert", "in.con", "./out.con"] oneFile).tree.node? ["work", "in.con"] =
      some (.file "kept\n".toUTF8) := by
  obtain ⟨kept_iff, refused, beside⟩ :=
    @convert_keeps_input_iff oneFile ["work", "in.con"] "kept\n".toUTF8
      ["convert", "in.con", "./out.con"] false "in.con" "./out.con" 0 1
      (by decide +kernel) (by decide +kernel) (by decide +kernel)
  exact ⟨kept_iff, refused, beside (by decide +kernel)⟩

/-- The directory on the way to the output is made, and the way back from it leads to the
input. -/
theorem convert_empties_input :
    ((run ["convert", "in.con", "new/../in.con"] oneFile).conclusion matches .exits 0) = true ∧
      (run ["convert", "in.con", "new/../in.con"] oneFile).tree.node? ["work", "in.con"] =
        some (.file .empty) := by
  decide +kernel

end Runs

end Command

end Atomistic
