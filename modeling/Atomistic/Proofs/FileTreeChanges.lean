import Atomistic.Files.Tree
import Atomistic.Proofs.Results
import Atomistic.Stepwise

/-! Changes to a tree of files. Directories are made only where nothing was, so every path that
led somewhere before leads there still. Paths that led nowhere may lead somewhere now. -/

namespace Atomistic

namespace FileTree

/-- All that stood in the tree stands in the other one. -/
structure GrowsTo (tree made : FileTree) : Prop where
  workingDirectory : made.workingDirectory = tree.workingDirectory
  kept : ∀ location node, tree.node? location = some node → made.node? location = some node

variable {tree middle made : FileTree} {path : FilePath} {location : Location}

theorem GrowsTo.refl (tree : FileTree) : tree.GrowsTo tree :=
  ⟨rfl, fun _ _ held => held⟩

theorem GrowsTo.trans (first : tree.GrowsTo middle) (second : middle.GrowsTo made) :
    tree.GrowsTo made :=
  ⟨second.workingDirectory.trans first.workingDirectory,
    fun location node held => second.kept location node (first.kept location node held)⟩

/-- The root is a directory and nothing else. -/
theorem ne_nil_of_node? {found : Option FileNode} (held : tree.node? location = found)
    (other : found ≠ some .directory) : location ≠ [] := by
  rintro rfl
  exact other held.symm

theorem growsTo_put (absent : tree.node? location = none) (node : FileNode) :
    tree.GrowsTo (tree.put location node) := by
  refine ⟨rfl, fun other found held => ?_⟩
  rw [node?_put tree other node (ne_nil_of_node? absent (by simp))]
  split
  next same =>
    rw [same, absent] at held
    cases held
  next => exact held

/-- No directory of the tree goes away. -/
structure KeepsDirectories (tree made : FileTree) : Prop where
  workingDirectory : made.workingDirectory = tree.workingDirectory
  kept : ∀ location, tree.node? location = some .directory →
    made.node? location = some .directory

theorem GrowsTo.keepsDirectories (grows : tree.GrowsTo made) : tree.KeepsDirectories made :=
  ⟨grows.workingDirectory, fun location => grows.kept location _⟩

theorem KeepsDirectories.trans (first : tree.KeepsDirectories middle)
    (second : middle.KeepsDirectories made) : tree.KeepsDirectories made :=
  ⟨second.workingDirectory.trans first.workingDirectory,
    fun location held => second.kept location (first.kept location held)⟩

theorem keepsDirectories_put (notDirectory : tree.node? location ≠ some .directory)
    (node : FileNode) : tree.KeepsDirectories (tree.put location node) := by
  refine ⟨rfl, fun other held => ?_⟩
  rw [node?_put tree other node (ne_nil_of_node? rfl notDirectory)]
  split
  next same => exact absurd (same ▸ held) notDirectory
  next => exact held

section Paths

/-- Names are followed through directories, so while these stay they lead to the same place, or
fail in the same way. Only where something was missing on the way is it another matter. -/
theorem KeepsDirectories.walk (keeps : tree.KeepsDirectories made) (here : Location)
    (names : List String) :
    made.walk here names = tree.walk here names ∨
      tree.walk here names = .error .notFound ∨ tree.walk here names = .error .notDirectory := by
  induction names generalizing here with
  | nil => exact .inl rfl
  | cons name rest ih =>
    unfold FileTree.walk
    cases held : tree.node? here with
    | none => exact .inr (.inl rfl)
    | some node =>
      cases node with
      | file bytes => exact .inr (.inr rfl)
      | directory =>
        rw [keeps.kept here held]
        dsimp only
        split
        next => exact ih _
        next =>
          split
          next => exact .inl rfl
          next => exact ih _

theorem KeepsDirectories.locate (keeps : tree.KeepsDirectories made) (path : FilePath) :
    made.locate path = tree.locate path ∨
      tree.locate path = .error .notFound ∨ tree.locate path = .error .notDirectory := by
  unfold FileTree.locate
  split
  next => exact .inl rfl
  next =>
    rw [keeps.workingDirectory]
    exact keeps.walk _ _

theorem KeepsDirectories.locate_eq_ok (keeps : tree.KeepsDirectories made)
    (located : tree.locate path = .ok location) : made.locate path = .ok location := by
  rcases keeps.locate path with same | missing | blocked
  · exact same.trans located
  · cases located.symm.trans missing
  · cases located.symm.trans blocked

theorem find_eq_ok_iff {node : FileNode} :
    tree.find path = .ok (location, node) ↔
      tree.locate path = .ok location ∧ tree.node? location = some node := by
  rw [FileTree.find, result_bind_eq_ok_iff]
  constructor
  · rintro ⟨found, located, done⟩
    split at done
    next held =>
      cases done
      exact ⟨located, held⟩
    next => cases done
  · rintro ⟨located, held⟩
    exact ⟨location, located, by rw [held]; rfl⟩

theorem locationOf?_eq_some_iff :
    tree.locationOf? path = .ok (some location) ↔
      path.hasNull = false ∧ tree.locate path = .ok location ∧
        ∃ node, tree.node? location = some node := by
  unfold locationOf?
  constructor
  · intro done
    split at done
    next => cases done
    next whole =>
      split at done
      next node found =>
        cases done
        obtain ⟨located, held⟩ := find_eq_ok_iff.1 found
        exact ⟨Bool.eq_false_iff.2 whole, located, node, held⟩
      next => cases done
      next => cases done
  · rintro ⟨whole, located, node, held⟩
    rw [if_neg (Bool.eq_false_iff.1 whole), find_eq_ok_iff.2 ⟨located, held⟩]

theorem GrowsTo.locationOf? (grows : tree.GrowsTo made)
    (found : tree.locationOf? path = .ok (some location)) :
    made.locationOf? path = .ok (some location) := by
  obtain ⟨whole, located, node, held⟩ := locationOf?_eq_some_iff.1 found
  exact locationOf?_eq_some_iff.2
    ⟨whole, grows.keepsDirectories.locate_eq_ok located, node, grows.kept _ _ held⟩

end Paths

section Directories

theorem makeDirectory_eq_ok_iff :
    tree.makeDirectory path = .ok made ↔
      ∃ location, tree.locate path = .ok location ∧ tree.node? location = none ∧
        made = tree.put location .directory := by
  rw [makeDirectory, result_bind_eq_ok_iff]
  constructor
  · rintro ⟨location, located, done⟩
    split at done
    next => cases done
    next absent =>
      cases done
      exact ⟨location, located, absent, rfl⟩
  · rintro ⟨location, located, absent, rfl⟩
    exact ⟨location, located, by rw [absent]; rfl⟩

theorem requireNoNull_bind {α : Type} (path : FilePath) (next : Filing α) (tree : FileTree) :
    (requireNoNull path >>= fun _ => next) tree =
      if path.hasNull then .error (.value .nullInPath) tree else next tree := by
  unfold requireNoNull
  cases path.hasNull <;> rfl

theorem ensureDirectory_eq (path : FilePath) (tree : FileTree) :
    ensureDirectory path tree =
      if path.hasNull then .error (.value .nullInPath) tree
      else match tree.makeDirectory path with
        | .ok made => .ok () made
        | .error problem =>
          if tree.isDirectory path then .ok () tree
          else .error (.file ⟨problem, path.text⟩) tree := by
  refine (requireNoNull_bind path _ tree).trans (congrArg (ite _ _) ?_)
  refine (get_bind _ tree).trans ?_
  cases tree.makeDirectory path with
  | ok made => rfl
  | error problem =>
    dsimp only
    split <;> rfl

theorem ensureDirectoriesOf_cons (slashes : Nat) (name : String) (above : List String)
    (tree : FileTree) :
    ensureDirectoriesOf slashes (name :: above) tree =
      if FilePath.hasNull ⟨slashes, (name :: above).reverse⟩ then .error (.value .nullInPath) tree
      else match tree.makeDirectory ⟨slashes, (name :: above).reverse⟩ with
        | .error .notFound =>
          (ensureDirectoriesOf slashes above >>= fun _ =>
            ensureDirectory ⟨slashes, (name :: above).reverse⟩) tree
        | _ => ensureDirectory ⟨slashes, (name :: above).reverse⟩ tree := by
  refine (requireNoNull_bind _ _ tree).trans (congrArg (ite _ _) ?_)
  refine (get_bind _ tree).trans ?_
  cases tree.makeDirectory ⟨slashes, (name :: above).reverse⟩ with
  | ok made => rfl
  | error problem => cases problem <;> rfl

/-- Whatever comes of it, all that stood in the tree still stands. -/
def OnlyAdds {α : Type} (filing : Filing α) : Prop :=
  ∀ tree : FileTree, tree.GrowsTo (stateAfter (filing tree))

theorem OnlyAdds.bind {α β : Type} {filing : Filing α} {next : α → Filing β}
    (first : OnlyAdds filing) (second : ∀ value, OnlyAdds (next value)) :
    OnlyAdds (filing >>= next) := by
  intro tree
  have grows := first tree
  rw [stateAfter_bind]
  cases met : filing tree with
  | ok value middle =>
    rw [met] at grows
    exact grows.trans (second value middle)
  | error fault middle =>
    rw [met] at grows
    exact grows

theorem onlyAdds_ensureDirectory (path : FilePath) : OnlyAdds (ensureDirectory path) := by
  intro tree
  rw [ensureDirectory_eq]
  split
  next => exact .refl tree
  next =>
    split
    next made built =>
      obtain ⟨location, -, absent, rfl⟩ := makeDirectory_eq_ok_iff.1 built
      exact growsTo_put absent _
    next => split <;> exact .refl tree

theorem onlyAdds_ensureDirectoriesOf (slashes : Nat) (names : List String) :
    OnlyAdds (ensureDirectoriesOf slashes names) := by
  induction names with
  | nil => exact onlyAdds_ensureDirectory _
  | cons name above ih =>
    intro tree
    rw [ensureDirectoriesOf_cons]
    split
    next => exact .refl tree
    next =>
      split
      next => exact ih.bind (fun _ => onlyAdds_ensureDirectory _) tree
      next => exact onlyAdds_ensureDirectory _ tree

theorem onlyAdds_ensureDirectories (path : FilePath) : OnlyAdds (ensureDirectories path) :=
  onlyAdds_ensureDirectoriesOf _ _

theorem makeDirectory_of_isDirectory (directory : tree.isDirectory path = true) :
    tree.makeDirectory path = .error .alreadyExists := by
  unfold isDirectory at directory
  split at directory
  next location found =>
    obtain ⟨located, held⟩ := find_eq_ok_iff.1 found
    rw [makeDirectory, located, ok_bind, held]
    rfl
  next => cases directory

theorem ensureDirectory_of_isDirectory (whole : path.hasNull = false)
    (directory : tree.isDirectory path = true) : ensureDirectory path tree = .ok () tree := by
  rw [ensureDirectory_eq, whole, makeDirectory_of_isDirectory directory, directory]
  rfl

/-- Where a directory is there already nothing is made. -/
theorem ensureDirectories_of_isDirectory (whole : path.hasNull = false)
    (directory : tree.isDirectory path = true) : ensureDirectories path tree = .ok () tree := by
  obtain ⟨slashes, names⟩ := path
  unfold ensureDirectories
  dsimp only
  cases reversed : names.reverse with
  | nil =>
    obtain rfl := List.reverse_eq_nil_iff.1 reversed
    exact ensureDirectory_of_isDirectory whole directory
  | cons name above =>
    obtain rfl : names = (name :: above).reverse := by rw [← reversed, List.reverse_reverse]
    rw [ensureDirectoriesOf_cons, whole, makeDirectory_of_isDirectory directory]
    exact ensureDirectory_of_isDirectory whole directory

end Directories

section Files

theorem createFile_eq (path : FilePath) (tree : FileTree) :
    createFile path tree =
      if path.hasNull then .error (.value .nullInPath) tree
      else match tree.locate path with
        | .error problem => .error (.file ⟨problem, path.text⟩) tree
        | .ok location =>
          if tree.node? location = some .directory then
            .error (.file ⟨.isDirectory, path.text⟩) tree
          else .ok location (tree.put location (.file .empty)) := by
  refine (requireNoNull_bind path _ tree).trans (congrArg (ite _ _) ?_)
  refine (get_bind _ tree).trans ?_
  cases tree.locate path with
  | error problem => rfl
  | ok location =>
    dsimp only
    cases tree.node? location with
    | none => rfl
    | some node => cases node <;> rfl

/-- A file is created where the path leads to, or nothing is changed. -/
theorem createFile_cases (path : FilePath) (tree : FileTree) :
    (∃ fault, createFile path tree = .error fault tree) ∨
      ∃ location, createFile path tree = .ok location (tree.put location (.file .empty)) ∧
        path.hasNull = false ∧ tree.locate path = .ok location ∧
        tree.node? location ≠ some .directory := by
  rw [createFile_eq]
  split
  next => exact .inl ⟨_, rfl⟩
  next whole =>
    split
    next => exact .inl ⟨_, rfl⟩
    next location located =>
      split
      next => exact .inl ⟨_, rfl⟩
      next other => exact .inr ⟨location, rfl, Bool.eq_false_iff.2 whole, located, other⟩

theorem createFile_of_file {bytes : ByteArray} (found : tree.locationOf? path = .ok (some location))
    (held : tree.node? location = some (.file bytes)) :
    createFile path tree = .ok location (tree.put location (.file .empty)) := by
  obtain ⟨whole, located, -⟩ := locationOf?_eq_some_iff.1 found
  rw [createFile_eq, whole, located]
  simp [held]

theorem openFile_eq (path : FilePath) (tree : FileTree) :
    openFile path tree =
      if path.hasNull then .error (.value .nullInPath) tree
      else match tree.find path with
        | .ok (location, .file _) => .ok location tree
        | .ok (_, .directory) => .error (.file ⟨.isDirectory, path.text⟩) tree
        | .error problem => .error (.file ⟨problem, path.text⟩) tree := by
  refine (requireNoNull_bind path _ tree).trans ?_
  split
  next => rfl
  next =>
    refine (get_bind _ tree).trans ?_
    cases tree.find path with
    | error problem => rfl
    | ok found =>
      obtain ⟨location, node⟩ := found
      cases node <;> rfl

theorem openFile_eq_ok_iff {rest : FileTree} :
    openFile path tree = .ok location rest ↔
      tree.locationOf? path = .ok (some location) ∧
        (∃ bytes, tree.node? location = some (.file bytes)) ∧ tree = rest := by
  rw [openFile_eq, locationOf?_eq_some_iff]
  constructor
  · intro opened
    split at opened
    next => cases opened
    next whole =>
      split at opened
      next bytes found =>
        cases opened
        obtain ⟨located, held⟩ := find_eq_ok_iff.1 found
        exact ⟨⟨Bool.eq_false_iff.2 whole, located, _, held⟩, ⟨bytes, held⟩, rfl⟩
      next => cases opened
      next => cases opened
  · rintro ⟨⟨whole, located, -⟩, ⟨bytes, held⟩, rfl⟩
    rw [whole, find_eq_ok_iff.2 ⟨located, held⟩]
    rfl

/-- Why no file can be opened is known before: nothing is there, or a name is too long, or a
directory is in its place. -/
theorem openFile_eq_error {fault : Fault} {rest : FileTree}
    (failed : openFile path tree = .error fault rest) :
    (tree.locationOf? path = .ok none ∧ (fault = .value .nullInPath ∨
        ∃ problem, problem ≠ .nameTooLong ∧ fault = .file ⟨problem, path.text⟩)) ∨
      (tree.locationOf? path = .error ⟨.nameTooLong, path.text⟩ ∧
        fault = .file ⟨.nameTooLong, path.text⟩) ∨
      ∃ location, tree.locationOf? path = .ok (some location) ∧
        tree.node? location = some .directory ∧ fault = .file ⟨.isDirectory, path.text⟩ := by
  rw [openFile_eq] at failed
  unfold locationOf?
  split at failed
  next null =>
    cases failed
    exact .inl ⟨if_pos null, .inl rfl⟩
  next whole =>
    rw [if_neg whole]
    split at failed
    next => cases failed
    next location found =>
      cases failed
      exact .inr (.inr ⟨location, by rw [found], (find_eq_ok_iff.1 found).2, rfl⟩)
    next problem missing =>
      cases failed
      rw [missing]
      by_cases long : problem = .nameTooLong
      · subst long
        exact .inr (.inl ⟨rfl, rfl⟩)
      · refine .inl ⟨?_, .inr ⟨problem, long, rfl⟩⟩
        split
        next same => cases same
        next same => exact absurd (Except.error.inj same) long
        next => rfl

theorem openFile_eq_ok {bytes : ByteArray} (found : tree.locationOf? path = .ok (some location))
    (held : tree.node? location = some (.file bytes)) :
    openFile path tree = .ok location tree := by
  exact openFile_eq_ok_iff.2 ⟨found, ⟨_, held⟩, rfl⟩

end Files

end FileTree

end Atomistic
